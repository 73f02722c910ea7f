import Mathlib.Data.List.Infix
import TextTemplate.Source
import TextTemplate.Text.Search

/-!
# What white space control deletes

A rule of white space control changes a text only where its delimiter occurs. In a text in which no
tag and no comment opens, this leaves dashes in front of closing delimiters and line breaks behind
them. A dash that is deleted can bring an opening delimiter about, but only one that is closed at
once.
-/

namespace TextTemplate

/-! ## Occurrences -/

namespace Text

variable {part cs : List Char}

theorem contains_iff_infix : contains part cs ↔ part <:+: cs := by
  induction cs with
  | nil => simp [contains]
  | cons c rest ih =>
    rw [contains, Bool.or_eq_true, ih, List.isPrefixOf_iff_prefix, List.infix_cons_iff]

theorem contains_eq_false_iff : contains part cs = false ↔ ¬ part <:+: cs := by
  rw [← contains_iff_infix, Bool.not_eq_true]

/-- What does not occur in a text does not occur in a part of it. -/
theorem contains_within {cs' : List Char} (h : contains part cs = false) (hcs : cs' <:+: cs) :
    contains part cs' = false :=
  contains_eq_false_iff.mpr fun hpart => contains_eq_false_iff.mp h (hpart.trans hcs)

theorem takeWhile_append_cons {p : Char → Bool} {c : Char} (hc : p c = false) (x y : List Char) :
    (x ++ c :: y).takeWhile p = x.takeWhile p := by
  induction x with
  | nil => simp [hc]
  | cons d x ih =>
    rw [List.cons_append, List.takeWhile_cons, List.takeWhile_cons, ih]

theorem dropWhile_append_cons {p : Char → Bool} {c : Char} (hc : p c = false) (x y : List Char) :
    (x ++ c :: y).dropWhile p = x.dropWhile p ++ c :: y := by
  induction x with
  | nil => simp [hc]
  | cons d x ih =>
    rw [List.cons_append, List.dropWhile_cons, List.dropWhile_cons, ih]
    split <;> rfl

/-- What a text starts with is not changed by a character that does not occur in it. -/
theorem prefix_append_cons {x y : List Char} {c : Char} (hc : c ∉ part) :
    part <+: x ++ c :: y ↔ part <+: x := by
  refine ⟨fun h => ?_, fun h => h.trans (List.prefix_append _ _)⟩
  induction part generalizing x with
  | nil => exact List.nil_prefix
  | cons d part ih =>
    obtain ⟨hd, hpart⟩ : c ≠ d ∧ c ∉ part := by simpa using hc
    cases x with
    | nil => exact absurd (List.cons_prefix_cons.mp h).1.symm hd
    | cons e x =>
      obtain ⟨rfl, hrest⟩ := List.cons_prefix_cons.mp h
      exact List.cons_prefix_cons.mpr ⟨rfl, ih hpart hrest⟩

theorem contains_cons_eq_false {c : Char} :
    contains part (c :: cs) = false ↔
      part.isPrefixOf (c :: cs) = false ∧ contains part cs = false :=
  Bool.or_eq_false_iff

theorem stretches_ne_nil (p : Char → Bool) (cs : List Char) : stretches p cs ≠ [] := by
  cases cs with
  | nil => exact List.cons_ne_nil _ _
  | cons c rest =>
    rw [stretches]
    split
    · exact List.cons_ne_nil _ _
    · split <;> exact List.cons_ne_nil _ _

theorem contains_behind {c : Char} (h : contains part (c :: cs))
    (hstarts : ∀ rest, part ++ rest ≠ c :: cs) : contains part cs := by
  rw [contains, Bool.or_eq_true, List.isPrefixOf_iff_prefix] at h
  exact h.resolve_left fun ⟨rest, hrest⟩ => hstarts rest hrest

/-- The first stretch of a text is what it starts with, and each of the others stands in it. -/
theorem infix_of_stretches {p : Char → Bool} {head : List Char} {tail : List (List Char)}
    (h : stretches p cs = head :: tail) : head <+: cs ∧ ∀ stretch ∈ tail, stretch <:+: cs := by
  induction cs generalizing head tail with
  | nil =>
    cases h
    exact ⟨List.prefix_rfl, nofun⟩
  | cons c rest ih =>
    rw [stretches] at h
    cases hrest : stretches p rest with
    | nil => exact absurd hrest (stretches_ne_nil _ _)
    | cons first others =>
      obtain ⟨hfirst, hothers⟩ := ih hrest
      have hbehind {stretch : List Char} (h : stretch <:+: rest) : stretch <:+: c :: rest :=
        h.trans (List.suffix_cons c rest).isInfix
      rw [hrest] at h
      split at h
      · cases h
        refine ⟨List.nil_prefix, List.forall_mem_cons.mpr ⟨hbehind hfirst.isInfix, ?_⟩⟩
        exact fun stretch hmem => hbehind (hothers stretch hmem)
      · cases h
        exact ⟨List.cons_prefix_cons.mpr ⟨rfl, hfirst⟩,
          fun stretch hmem => hbehind (hothers stretch hmem)⟩

theorem infix_of_mem_stretches {p : Char → Bool} {stretch : List Char}
    (h : stretch ∈ stretches p cs) : stretch <:+: cs := by
  cases hcs : stretches p cs with
  | nil => rw [hcs] at h; cases h
  | cons head tail =>
    obtain ⟨hhead, htail⟩ := infix_of_stretches hcs
    rw [hcs] at h
    rcases List.mem_cons.mp h with rfl | h
    · exact hhead.isInfix
    · exact htail stretch h

end Text

namespace Source

open Text

variable {trimming : Trimming} {cs rest : List Char} {a b c : Char}

/-! ## Rules that find nothing -/

theorem shrinkComments_eq (h : contains ['{', '#'] cs = false) : shrinkComments cs = cs := by
  fun_induction shrinkComments cs with
  | case1 rest after hafter ih => simp [contains] at h
  | case2 rest hafter => rfl
  | case3 c rest hne ih => rw [ih (contains_cons_eq_false.mp h).2]
  | case4 => rfl

theorem unlines_stretches (cs : List Char) : unlines (stretches (· == '\n') cs) = cs := by
  induction cs with
  | nil => rfl
  | cons c rest ih =>
    rw [stretches]
    cases hrest : stretches (· == '\n') rest with
    | nil => exact absurd hrest (stretches_ne_nil _ _)
    | cons head tail =>
      rw [hrest] at ih
      split
      · rename_i hc
        rw [beq_iff_eq.mp hc, unlines, ih]
        · rfl
        · exact List.cons_ne_nil _ _
      · cases tail with
        | nil => rw [unlines] at ih ⊢; rw [ih]
        | cons second others =>
          rw [unlines] at ih ⊢
          · rw [List.cons_append, ih]
          · exact List.cons_ne_nil _ _
          · exact List.cons_ne_nil _ _

theorem stripIndent_eq (hblock : contains ['{', '%'] cs = false)
    (hcomment : contains ['{', '#'] cs = false) : stripIndent cs = cs := by
  have hbody := (List.dropWhile_suffix (l := cs) isIndent).isInfix
  have hopens : opensBlockOrComment (cs.dropWhile isIndent) = false := by
    have hblock := contains_within hblock hbody
    have hcomment := contains_within hcomment hbody
    unfold opensBlockOrComment
    split
    · rename_i heq
      simp [heq, contains] at hcomment
    · rename_i heq
      simp [heq, contains] at hblock
    · rfl
  simp only [stripIndent, hopens, Bool.false_eq_true, ↓reduceIte]

theorem stripIndents_eq (hblock : contains ['{', '%'] cs = false)
    (hcomment : contains ['{', '#'] cs = false) : stripIndents cs = cs := by
  have hline : ∀ line ∈ stretches (· == '\n') cs, stripIndent line = line := by
    intro line hmem
    have hwithin := infix_of_mem_stretches hmem
    exact stripIndent_eq (contains_within hblock hwithin) (contains_within hcomment hwithin)
  rw [stripIndents, List.map_congr_left hline, List.map_id', unlines_stretches]

theorem dropBlockNewlines_eq (hblock : contains ['%', '}', '\n'] cs = false)
    (hcomment : contains ['#', '}', '\n'] cs = false) : dropBlockNewlines cs = cs := by
  fun_induction dropBlockNewlines cs with
  | case1 => simp [contains] at hcomment
  | case2 => simp [contains] at hblock
  | case3 c rest _ _ ih =>
    rw [ih (contains_cons_eq_false.mp hblock).2 (contains_cons_eq_false.mp hcomment).2]
  | case4 => rfl

theorem eraseComments_eq (h : contains ['{', '#'] cs = false) : eraseComments cs = cs := by
  fun_induction eraseComments cs with
  | case1 => simp [contains] at h
  | case2 c rest _ ih => rw [ih (contains_cons_eq_false.mp h).2]
  | case3 => rfl

theorem tightenAfter_eq (h : contains ['-', a, b] cs = false) : tightenAfter a b cs = cs := by
  have hfrom (dropping : Bool) (hdropping : dropping = false) :
      tightenFrom a b dropping cs = cs := by
    fun_induction tightenFrom a b dropping cs with
    | case1 dropping x y rest hxy ih =>
      simp only [Bool.and_eq_true, beq_iff_eq] at hxy
      simp [contains, hxy] at h
    | case2 dropping x y rest hxy ih => rw [ih (contains_cons_eq_false.mp h).2 rfl]
    | case3 dropping c rest _ hdrop ih => simp [hdropping] at hdrop
    | case4 dropping c rest _ hdrop ih => rw [ih (contains_cons_eq_false.mp h).2 rfl]
    | case5 => rfl
  exact hfrom false rfl

theorem tightenBefore_eq (h : contains [a, b, '-'] cs = false) : tightenBefore a b cs = cs := by
  have hreverse : contains ['-', b, a] cs.reverse = false := by
    rw [contains_eq_false_iff] at h ⊢
    rwa [← List.reverse_infix, List.reverse_reverse]
  rw [tightenBefore, ← tightenAfter, tightenAfter_eq hreverse, List.reverse_reverse]

/-! ## Rules that delete something -/

theorem dropBlockNewlines_sublist (cs : List Char) : (dropBlockNewlines cs).Sublist cs := by
  fun_induction dropBlockNewlines cs with
  | case1 rest ih => exact ((ih.cons _).cons_cons _).cons_cons _
  | case2 rest ih => exact ((ih.cons _).cons_cons _).cons_cons _
  | case3 c rest _ _ ih => exact ih.cons_cons _
  | case4 => exact .slnil

theorem length_dropBlockNewlines_lt
    (h : contains ['%', '}', '\n'] cs ∨ contains ['#', '}', '\n'] cs) :
    (dropBlockNewlines cs).length < cs.length := by
  fun_induction dropBlockNewlines cs with
  | case1 rest ih =>
    have := (dropBlockNewlines_sublist rest).length_le
    simp only [List.length_cons]
    omega
  | case2 rest ih =>
    have := (dropBlockNewlines_sublist rest).length_le
    simp only [List.length_cons]
    omega
  | case3 c rest hcomment hblock ih =>
    have hrest : contains ['%', '}', '\n'] rest ∨ contains ['#', '}', '\n'] rest := by
      refine h.imp (fun h => ?_) fun h => ?_
      · exact contains_behind h fun after heq => by cases heq; exact hblock after rfl rfl
      · exact contains_behind h fun after heq => by cases heq; exact hcomment after rfl rfl
    simpa using ih hrest
  | case4 => simp [contains] at h

theorem tightenFrom_sublist (a b : Char) (dropping : Bool) (cs : List Char) :
    (tightenFrom a b dropping cs).Sublist cs := by
  fun_induction tightenFrom a b dropping cs with
  | case1 dropping x y rest hxy ih =>
    simp only [Bool.and_eq_true, beq_iff_eq] at hxy
    rw [hxy.1, hxy.2]
    exact ((ih.cons_cons _).cons_cons _).cons _
  | case2 dropping x y rest hxy ih => exact ih.cons_cons _
  | case3 dropping c rest _ hdrop ih => exact ih.cons _
  | case4 dropping c rest _ hdrop ih => exact ih.cons_cons _
  | case5 => exact .slnil

theorem tightenAfter_sublist (a b : Char) (cs : List Char) : (tightenAfter a b cs).Sublist cs :=
  tightenFrom_sublist a b false cs

theorem length_tightenFrom_lt (dropping : Bool) (h : contains ['-', a, b] cs) :
    (tightenFrom a b dropping cs).length < cs.length := by
  fun_induction tightenFrom a b dropping cs with
  | case1 dropping x y rest hxy ih =>
    have := (tightenFrom_sublist a b true rest).length_le
    simp only [List.length_cons]
    omega
  | case2 dropping x y rest hxy ih =>
    simpa using ih (contains_behind h fun after heq => by cases heq; simp at hxy)
  | case3 dropping c rest _ hdrop ih =>
    have := (tightenFrom_sublist a b true rest).length_le
    simp only [List.length_cons]
    omega
  | case4 dropping c rest hne hdrop ih =>
    have hrest := contains_behind h fun after heq => by
      cases heq
      exact hne a b after rfl rfl
    simpa using ih hrest
  | case5 => simp [contains] at h

/-! ## Texts in which nothing opens -/

/-- No tag and no comment opens in the text. -/
structure Unopened (cs : List Char) : Prop where
  block : contains ['{', '%'] cs = false
  expression : contains ['{', '{'] cs = false
  comment : contains ['{', '#'] cs = false

/-- White space control has nothing to delete in a text in which nothing opens: no dash stands in
front of a closing delimiter, and no line break that is to go behind one. -/
structure Untrimmed (trimming : Trimming) (cs : List Char) : Prop where
  block : contains ['-', '%', '}'] cs = false
  expression : contains ['-', '}', '}'] cs = false
  blockLine : trimming.trimBlocks → contains ['%', '}', '\n'] cs = false
  commentLine : trimming.trimBlocks → contains ['#', '}', '\n'] cs = false

/-- Nothing opens in the text but block tags that are closed at once. -/
def ClosesAtOnce : List Char → Prop
  | [] => True
  | c :: rest =>
    (c = '{' → ∀ d ∈ rest.head?, d ≠ '{' ∧ d ≠ '#' ∧ (d = '%' → rest.tail.head? = some '}')) ∧
      ClosesAtOnce rest

theorem Unopened.within {cs' : List Char} (h : Unopened cs) (hcs : cs' <:+: cs) :
    Unopened cs' :=
  ⟨contains_within h.block hcs, contains_within h.expression hcs,
    contains_within h.comment hcs⟩

theorem Unopened.closesAtOnce (h : Unopened cs) : ClosesAtOnce cs := by
  induction cs with
  | nil => trivial
  | cons c rest ih =>
    refine ⟨?_, ih (h.within (List.suffix_cons c rest).isInfix)⟩
    rintro rfl d hd
    obtain ⟨after, rfl⟩ := List.head?_eq_some_iff.mp hd
    refine ⟨?_, ?_, ?_⟩
    · rintro rfl
      simpa [contains] using h.expression
    · rintro rfl
      simpa [contains] using h.comment
    · rintro rfl
      simpa [contains] using h.block

theorem ClosesAtOnce.behind {text : List Char} (h : ClosesAtOnce (text ++ cs)) :
    ClosesAtOnce cs := by
  induction text with
  | nil => exact h
  | cons c text ih => exact ih h.2

/-- What cannot start such a text does not occur in one. -/
theorem ClosesAtOnce.contains_eq_false {part : List Char} (h : ClosesAtOnce cs) (hne : part ≠ [])
    (hpart : ∀ rest, ¬ ClosesAtOnce (part ++ rest)) : contains part cs = false := by
  induction cs with
  | nil => simpa [contains] using hne
  | cons c rest ih =>
    refine contains_cons_eq_false.mpr ⟨?_, ih h.2⟩
    rw [Bool.eq_false_iff]
    intro hstarts
    obtain ⟨after, hafter⟩ := List.isPrefixOf_iff_prefix.mp hstarts
    rw [← hafter] at h
    exact hpart after h

theorem ClosesAtOnce.comment (h : ClosesAtOnce cs) : contains ['{', '#'] cs = false :=
  h.contains_eq_false (List.cons_ne_nil _ _) fun _ h => (h.1 rfl '#' rfl).2.1 rfl

theorem ClosesAtOnce.openDash (h : ClosesAtOnce cs) : contains ['{', '%', '-'] cs = false :=
  h.contains_eq_false (List.cons_ne_nil _ _) fun _ h => by
    have hclosed := (h.1 rfl '%' rfl).2.2 rfl
    simp at hclosed

theorem ClosesAtOnce.openBraceDash (h : ClosesAtOnce cs) : contains ['{', '{', '-'] cs = false :=
  h.contains_eq_false (List.cons_ne_nil _ _) fun _ h => (h.1 rfl '{' rfl).1 rfl

theorem head?_dropBlockNewlines (cs : List Char) : (dropBlockNewlines cs).head? = cs.head? := by
  fun_cases dropBlockNewlines cs <;> rfl

theorem eq_percentBrace_cons (hd : '%' ∈ cs.head?) (hclosed : cs.tail.head? = some '}') :
    ∃ rest, cs = '%' :: '}' :: rest := by
  obtain ⟨d, rfl⟩ := List.head?_eq_some_iff.mp hd
  obtain ⟨rest, rfl⟩ := List.head?_eq_some_iff.mp hclosed
  exact ⟨rest, rfl⟩

theorem tail_head?_dropBlockNewlines (cs : List Char) :
    (dropBlockNewlines ('%' :: '}' :: cs)).tail.head? = some '}' := by
  rcases cs with _ | ⟨e, after⟩
  · rfl
  · by_cases he : e = '\n'
    · subst he; rfl
    · simp [dropBlockNewlines, he]

theorem ClosesAtOnce.dropBlockNewlines (h : ClosesAtOnce cs) :
    ClosesAtOnce (dropBlockNewlines cs) := by
  fun_induction Source.dropBlockNewlines cs with
  | case1 rest ih => exact ⟨nofun, nofun, ih h.2.2.2⟩
  | case2 rest ih => exact ⟨nofun, nofun, ih h.2.2.2⟩
  | case3 c rest _ _ ih =>
    refine ⟨fun hc d hd => ?_, ih h.2⟩
    rw [head?_dropBlockNewlines] at hd
    obtain ⟨hexpression, hcomment, hclosed⟩ := h.1 hc d hd
    refine ⟨hexpression, hcomment, fun hd' => ?_⟩
    obtain ⟨after, rfl⟩ := eq_percentBrace_cons (hd' ▸ hd) (hclosed hd')
    exact tail_head?_dropBlockNewlines after
  | case4 => exact h

/-- A rule about closing dashes keeps how a text starts, or takes a dash away in front of it. -/
theorem tightenFrom_start (a b : Char) (cs : List Char) :
    (tightenFrom a b false cs).head? = cs.head? ∨
      ∃ rest, tightenFrom a b false cs = a :: b :: rest := by
  unfold tightenFrom
  split
  · split
    · exact .inr ⟨_, rfl⟩
    · exact .inl rfl
  · exact .inl rfl
  · exact .inl rfl

theorem ClosesAtOnce.tightenFrom (h : ClosesAtOnce cs) (ha : a ≠ '{') (ha' : a ≠ '#')
    (hab : a = '%' → b = '}') (hb : b ≠ '{') (dropping : Bool) :
    ClosesAtOnce (tightenFrom a b dropping cs) := by
  fun_induction Source.tightenFrom a b dropping cs with
  | case1 dropping x y rest hxy ih => exact ⟨(absurd · ha), (absurd · hb), ih h.2.2.2⟩
  | case2 dropping x y rest hxy ih => exact ⟨nofun, ih h.2⟩
  | case3 dropping c rest _ hdrop ih => exact ih h.2
  | case4 dropping c rest _ hdrop ih =>
    refine ⟨fun hc d hd => ?_, ih h.2⟩
    rcases tightenFrom_start a b rest with hstart | ⟨after, hstart⟩
    · rw [hstart] at hd
      obtain ⟨hexpression, hcomment, hclosed⟩ := h.1 hc d hd
      refine ⟨hexpression, hcomment, fun hd' => ?_⟩
      obtain ⟨after, rfl⟩ := eq_percentBrace_cons (hd' ▸ hd) (hclosed hd')
      rfl
    · rw [hstart] at hd ⊢
      cases hd
      exact ⟨ha, ha', fun hd' => by rw [hab hd']; rfl⟩
  | case5 => exact h

/-! ## What is left of such a text -/

theorem dropFinalNewline_starts (cs : List Char) : dropFinalNewline cs <+: cs := by
  unfold dropFinalNewline
  split
  · exact List.dropLast_prefix cs
  · exact List.prefix_rfl

theorem Unopened.dropFinalNewline (h : Unopened cs) : Unopened (dropFinalNewline cs) :=
  h.within (dropFinalNewline_starts cs).isInfix

/-- The line breaks behind blocks and comments go away where the trimming says so. -/
def trimLines (trimming : Trimming) (cs : List Char) : List Char :=
  if trimming.trimBlocks then dropBlockNewlines cs else cs

theorem trimLines_sublist (trimming : Trimming) (cs : List Char) :
    (trimLines trimming cs).Sublist cs := by
  unfold trimLines
  split
  · exact dropBlockNewlines_sublist cs
  · exact .refl cs

theorem ClosesAtOnce.trimLines (h : ClosesAtOnce cs) : ClosesAtOnce (trimLines trimming cs) := by
  unfold Source.trimLines
  split
  · exact h.dropBlockNewlines
  · exact h

theorem trimLines_eq_iff : trimLines trimming cs = cs ↔ (trimming.trimBlocks →
    contains ['%', '}', '\n'] cs = false ∧ contains ['#', '}', '\n'] cs = false) := by
  by_cases htrim : trimming.trimBlocks
  · rw [trimLines, if_pos htrim]
    refine ⟨fun heq _ => ?_, fun h => dropBlockNewlines_eq (h htrim).1 (h htrim).2⟩
    by_contra hcontains
    rw [not_and_or, Bool.not_eq_false, Bool.not_eq_false] at hcontains
    have hless := length_dropBlockNewlines_lt hcontains
    rw [heq] at hless
    exact lt_irrefl _ hless
  · rw [trimLines, if_neg htrim]
    exact ⟨fun _ h => absurd h htrim, fun _ => rfl⟩

theorem tightenAfter_eq_iff : tightenAfter a b cs = cs ↔ contains ['-', a, b] cs = false := by
  refine ⟨fun heq => ?_, tightenAfter_eq⟩
  by_contra hcontains
  have hless := length_tightenFrom_lt false (Bool.not_eq_false _ ▸ hcontains)
  rw [← tightenAfter, heq] at hless
  exact lt_irrefl _ hless

/-- From a text in which nothing opens only closing dashes, the white space behind them and line
breaks behind blocks are deleted. -/
theorem prepareChars_of_unopened (trimming : Trimming) (h : Unopened cs) :
    prepareChars trimming cs =
      tightenAfter '}' '}' (tightenAfter '%' '}' (trimLines trimming (dropFinalNewline cs))) ∧
    ClosesAtOnce (prepareChars trimming cs) := by
  obtain ⟨hblock, hexpression, hcomment⟩ := h.dropFinalNewline
  have hlines : ClosesAtOnce (trimLines trimming (dropFinalNewline cs)) :=
    h.dropFinalNewline.closesAtOnce.trimLines
  have hblocks : ClosesAtOnce (tightenAfter '%' '}' (trimLines trimming (dropFinalNewline cs))) :=
    hlines.tightenFrom (by decide) (by decide) (fun _ => rfl) (by decide) false
  have hclosed : ClosesAtOnce
      (tightenAfter '}' '}' (tightenAfter '%' '}' (trimLines trimming (dropFinalNewline cs)))) :=
    hblocks.tightenFrom (by decide) (by decide) (fun _ => rfl) (by decide) false
  have hprepared : prepareChars trimming cs =
      tightenAfter '}' '}' (tightenAfter '%' '}' (trimLines trimming (dropFinalNewline cs))) := by
    rw [prepareChars, shrinkComments_eq hcomment, stripIndents_eq hblock hcomment, ite_self,
      ← trimLines, eraseComments_eq hlines.comment, tighten, tightenBefore_eq hblocks.openDash,
      tightenBefore_eq hclosed.openBraceDash]
  exact ⟨hprepared, hprepared ▸ hclosed⟩

theorem prepareChars_eq_iff (h : Unopened cs) :
    prepareChars trimming cs = dropFinalNewline cs ↔ Untrimmed trimming (dropFinalNewline cs) := by
  rw [(prepareChars_of_unopened trimming h).1]
  generalize dropFinalNewline cs = text
  have hlines := trimLines_sublist trimming text
  have hblocks := tightenAfter_sublist '%' '}' (trimLines trimming text)
  have hexpressions := tightenAfter_sublist '}' '}' (tightenAfter '%' '}' (trimLines trimming text))
  constructor
  · intro heq
    rw [heq] at hexpressions
    -- every rule only deletes, so a text that comes out again has passed each of them as it is
    have hlines' := hlines.eq_of_length_le (hexpressions.trans hblocks).length_le
    rw [hlines'] at hblocks hexpressions heq
    have hblocks' := hblocks.eq_of_length_le hexpressions.length_le
    rw [hblocks'] at heq
    have hnewlines := trimLines_eq_iff.mp hlines'
    exact ⟨tightenAfter_eq_iff.mp hblocks', tightenAfter_eq_iff.mp heq, fun h => (hnewlines h).1,
      fun h => (hnewlines h).2⟩
  · intro huntrimmed
    rw [trimLines_eq_iff.mpr fun h => ⟨huntrimmed.blockLine h, huntrimmed.commentLine h⟩,
      tightenAfter_eq huntrimmed.block, tightenAfter_eq huntrimmed.expression]

end Source

end TextTemplate
