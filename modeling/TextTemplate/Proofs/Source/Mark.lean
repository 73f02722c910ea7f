import TextTemplate.Proofs.Source.Deletion

/-!
# White space control around quotes

White space control knows nothing of quotes, but no rule of it is about a quote or a backslash
either. So each rule treats the text in front of such a character and the text behind it on their
own, unless a comment stretches over it.
-/

namespace TextTemplate.Source

open Text

variable {trimming : Trimming} {cs x y rest : List Char} {a b c : Char}

theorem contains_cons_iff {part : List Char} :
    contains part (c :: cs) = false ↔ ¬ part <+: c :: cs ∧ contains part cs = false := by
  rw [contains_eq_false_iff, List.infix_cons_iff, not_or, contains_eq_false_iff]

/-- The characters that have to be escaped between single quotes. -/
def isMark (c : Char) : Bool := c == '\'' || c == '\\'

theorem isMark_cases (h : isMark c) : c = '\'' ∨ c = '\\' := by
  simpa [isMark] using h

theorem ne_of_isMark (h : isMark c) (hd : isMark a = false) : c ≠ a := by
  rintro rfl
  rw [h] at hd
  cases hd

theorem isBlank_of_isMark (h : isMark c) : isBlank c = false := by
  rcases isMark_cases h with rfl | rfl <;> decide

theorem isIndent_of_isMark (h : isMark c) : isIndent c = false := by
  rcases isMark_cases h with rfl | rfl <;> decide

/-- A text without marks. -/
def Unmarked (cs : List Char) : Prop := cs.all (!isMark ·)

instance (cs : List Char) : Decidable (Unmarked cs) := inferInstanceAs (Decidable (_ = true))

theorem unmarked_cons : Unmarked (c :: cs) ↔ isMark c = false ∧ Unmarked cs := by
  simp [Unmarked]

/-- What a text starts with is not changed by a mark behind it. -/
theorem prefix_append_mark {part : List Char} (hpart : Unmarked part) (hc : isMark c) :
    part <+: x ++ c :: y ↔ part <+: x :=
  prefix_append_cons fun hmem => by simpa [hc] using List.all_eq_true.mp hpart c hmem

theorem not_prefix_mark {part : List Char} {d : Char} (hpart : Unmarked (d :: part))
    (hc : isMark c) : ¬ d :: part <+: c :: y := by
  rw [show c :: y = [] ++ c :: y from rfl, prefix_append_mark hpart hc]
  simp

/-! ## Rules that only delete -/

/-- A rule that only deletes characters, and that deletes on either side of a mark what it would
delete there anyway. -/
structure Local (rule : List Char → List Char) : Prop where
  sublist : ∀ cs, (rule cs).Sublist cs
  mark : ∀ x {c} y, isMark c → rule (x ++ c :: y) = rule x ++ c :: rule y

namespace Local

variable {rule rule' : List Char → List Char}

theorem nil (h : Local rule) : rule [] = [] := List.sublist_nil.mp (h.sublist [])

protected theorem id : Local id := ⟨fun _ => .refl _, fun _ _ _ _ => rfl⟩

protected theorem comp (h : Local rule) (h' : Local rule') : Local (rule ∘ rule') where
  sublist cs := (h.sublist _).trans (h'.sublist cs)
  mark x c y hc := by simp [h'.mark x y hc, h.mark _ _ hc]

protected theorem ite {p : Prop} [Decidable p] (h : Local rule) (h' : Local rule') :
    Local (if p then rule else rule') := by
  split
  · exact h
  · exact h'

/-- Where two rules together change nothing, neither of them does. -/
theorem comp_eq_iff (h : Local rule) (cs : List Char) (h' : Local rule') :
    rule (rule' cs) = cs ↔ rule' cs = cs ∧ rule cs = cs := by
  constructor
  · intro heq
    have hsub := h.sublist (rule' cs)
    rw [heq] at hsub
    have heq' := (h'.sublist cs).eq_of_length_le hsub.length_le
    exact ⟨heq', by rwa [heq'] at heq⟩
  · rintro ⟨heq', heq⟩
    rw [heq', heq]

end Local

theorem dropBlockNewlines_cons (hcomment : ¬ ['#', '}', '\n'] <+: c :: rest)
    (hblock : ¬ ['%', '}', '\n'] <+: c :: rest) :
    dropBlockNewlines (c :: rest) = c :: dropBlockNewlines rest := by
  rw [dropBlockNewlines]
  · rintro after rfl rfl
    exact hcomment ⟨after, rfl⟩
  · rintro after rfl rfl
    exact hblock ⟨after, rfl⟩

theorem dropBlockNewlines_local : Local dropBlockNewlines where
  sublist := dropBlockNewlines_sublist
  mark x c y hc := by
    fun_induction dropBlockNewlines x with
    | case1 rest ih => simp [dropBlockNewlines, ih]
    | case2 rest ih => simp [dropBlockNewlines, ih]
    | case3 d rest hcomment hblock ih =>
      rw [List.cons_append, dropBlockNewlines_cons, ih, List.cons_append]
      · rw [← List.cons_append, prefix_append_mark (by decide) hc]
        rintro ⟨after, heq⟩
        cases heq
        exact hcomment after rfl rfl
      · rw [← List.cons_append, prefix_append_mark (by decide) hc]
        rintro ⟨after, heq⟩
        cases heq
        exact hblock after rfl rfl
    | case4 =>
      rw [List.nil_append, dropBlockNewlines_cons, List.nil_append]
      · exact not_prefix_mark (by decide) hc
      · exact not_prefix_mark (by decide) hc

theorem eraseComments_cons (h : ¬ ['{', '#', '#', '}'] <+: c :: rest) :
    eraseComments (c :: rest) = c :: eraseComments rest := by
  rw [eraseComments]
  rintro after rfl rfl
  exact h ⟨after, rfl⟩

theorem eraseComments_local : Local eraseComments where
  sublist cs := by
    fun_induction eraseComments cs with
    | case1 rest ih => exact (((ih.cons _).cons _).cons _).cons _
    | case2 c rest _ ih => exact ih.cons_cons _
    | case3 => exact .slnil
  mark x c y hc := by
    fun_induction eraseComments x with
    | case1 rest ih => simp [eraseComments, ih]
    | case2 d rest hcomment ih =>
      rw [List.cons_append, eraseComments_cons, ih, List.cons_append]
      rw [← List.cons_append, prefix_append_mark (by decide) hc]
      rintro ⟨after, heq⟩
      cases heq
      exact hcomment after rfl rfl
    | case3 => rw [List.nil_append, eraseComments_cons (not_prefix_mark (by decide) hc)]; rfl

theorem tightenFrom_marker (dropping : Bool) (rest : List Char) :
    tightenFrom a b dropping ('-' :: a :: b :: rest) = a :: b :: tightenFrom a b true rest := by
  rw [tightenFrom]
  simp

theorem tightenFrom_cons (dropping : Bool) (h : ¬ ['-', a, b] <+: c :: rest) :
    tightenFrom a b dropping (c :: rest) =
      if dropping && isBlank c then tightenFrom a b true rest
      else c :: tightenFrom a b false rest := by
  by_cases hc : c = '-'
  · have hblank : (dropping && isBlank '-') = false := by cases dropping <;> decide
    subst hc
    rw [hblank, if_neg Bool.false_ne_true]
    rcases rest with _ | ⟨x, _ | ⟨y, rest⟩⟩
    · rw [tightenFrom, hblank, if_neg Bool.false_ne_true]
      exact nofun
    · rw [tightenFrom, hblank, if_neg Bool.false_ne_true]
      exact nofun
    · rw [tightenFrom, if_neg]
      rintro hxy
      simp only [Bool.and_eq_true, beq_iff_eq] at hxy
      exact h ⟨rest, by simp [hxy]⟩
  · rw [tightenFrom]
    exact fun _ _ _ heq => absurd heq hc

/-- Behind a mark no white space is being dropped. -/
theorem tightenFrom_mark (ha : isMark a = false) (hb : isMark b = false) (hc : isMark c)
    (dropping : Bool) (x y : List Char) :
    tightenFrom a b dropping (x ++ c :: y) =
      tightenFrom a b dropping x ++ c :: tightenFrom a b false y := by
  have hpart : Unmarked ['-', a, b] := by
    simp only [unmarked_cons, ha, hb]
    decide
  induction hlength : x.length using Nat.strong_induction_on generalizing dropping x with
  | h length ih =>
    cases x with
    | nil =>
      rw [List.nil_append, tightenFrom_cons _ (not_prefix_mark hpart hc), isBlank_of_isMark hc]
      simp [tightenFrom]
    | cons d x =>
      by_cases hmarker : ['-', a, b] <+: d :: x
      · obtain ⟨rest, heq⟩ := hmarker
        rw [← heq] at hlength ⊢
        have hrest := ih rest.length (by simp [← hlength]; omega) true rest rfl
        simp only [List.cons_append, List.nil_append, tightenFrom_marker, hrest]
      · have hrest (dropping : Bool) := ih x.length (by simp [← hlength]) dropping x rfl
        have hwhole : ¬ ['-', a, b] <+: d :: (x ++ c :: y) := by
          rwa [← List.cons_append, prefix_append_mark hpart hc]
        rw [List.cons_append, tightenFrom_cons _ hwhole, tightenFrom_cons _ hmarker, hrest, hrest]
        split <;> rfl

theorem tightenAfter_local (ha : isMark a = false) (hb : isMark b = false) :
    Local (tightenAfter a b) :=
  ⟨tightenAfter_sublist a b, fun x _ y hc => tightenFrom_mark ha hb hc false x y⟩

theorem tightenBefore_local (ha : isMark a = false) (hb : isMark b = false) :
    Local (tightenBefore a b) where
  sublist cs := by
    have hreverse := (tightenFrom_sublist b a false cs.reverse).reverse
    rwa [List.reverse_reverse] at hreverse
  mark x c y hc := by
    simp [tightenBefore, tightenFrom_mark hb ha hc]

theorem tighten_local : Local tighten :=
  (tightenBefore_local (by decide) (by decide)).comp <|
    (tightenAfter_local (by decide) (by decide)).comp <|
      (tightenBefore_local (by decide) (by decide)).comp <|
        tightenAfter_local (by decide) (by decide)

/-! ## Indentation -/

theorem stretches_append {p : Char → Bool} (hc : p c = false) (x y : List Char) :
    ∃ before last first later, stretches p x = before ++ [last] ∧ stretches p y = first :: later ∧
      stretches p (x ++ c :: y) = before ++ (last ++ c :: first) :: later := by
  obtain ⟨first, later, hy⟩ := List.exists_cons_of_ne_nil (stretches_ne_nil p y)
  induction x with
  | nil => exact ⟨[], [], first, later, rfl, hy, by simp [stretches, hc, hy]⟩
  | cons d x ih =>
    obtain ⟨before, last, first, later, hx, hy, hwhole⟩ := ih
    by_cases hd : p d
    · exact ⟨[] :: before, last, first, later, by simp [stretches, hd, hx], hy,
        by simp [stretches, hd, hwhole]⟩
    · cases before with
      | nil =>
        exact ⟨[], d :: last, first, later, by simp [stretches, hd, hx], hy,
          by simp [stretches, hd, hwhole]⟩
      | cons line before =>
        exact ⟨(d :: line) :: before, last, first, later, by simp [stretches, hd, hx], hy,
          by simp [stretches, hd, hwhole]⟩

theorem unlines_cons {line : List Char} {lines : List (List Char)} (h : lines ≠ []) :
    unlines (line :: lines) = line ++ '\n' :: unlines lines := by
  rw [unlines]
  exact h

theorem unlines_append (before : List (List Char)) (last first : List Char)
    (later : List (List Char)) :
    unlines (before ++ (last ++ c :: first) :: later) =
      unlines (before ++ [last]) ++ c :: unlines (first :: later) := by
  induction before with
  | nil =>
    cases later with
    | nil => rfl
    | cons line later =>
      rw [List.nil_append, List.nil_append, unlines_cons (List.cons_ne_nil _ _),
        unlines_cons (List.cons_ne_nil _ _)]
      simp [unlines]
  | cons line before ih =>
    rw [List.cons_append, List.cons_append, unlines_cons (by simp), unlines_cons (by simp), ih]
    simp

theorem opensBlockOrComment_iff :
    opensBlockOrComment cs ↔ ['{', '#'] <+: cs ∨ ['{', '%'] <+: cs := by
  unfold opensBlockOrComment
  split
  · simp
  · simp
  · rename_i hcomment hblock
    refine ⟨nofun, ?_⟩
    rintro (⟨rest, rfl⟩ | ⟨rest, rfl⟩)
    · exact absurd rfl (hcomment rest)
    · exact absurd rfl (hblock rest)

theorem stripIndent_mark (hc : isMark c) (x y : List Char) :
    stripIndent (x ++ c :: y) = stripIndent x ++ c :: y := by
  have hsame : opensBlockOrComment (x.dropWhile isIndent ++ c :: y) =
      opensBlockOrComment (x.dropWhile isIndent) := by
    rw [Bool.eq_iff_iff, opensBlockOrComment_iff, opensBlockOrComment_iff,
      prefix_append_mark (by decide) hc, prefix_append_mark (by decide) hc]
  simp only [stripIndent, dropWhile_append_cons (isIndent_of_isMark hc), hsame]
  split <;> rfl

/-- All lines but the first without the indentation that is to go. -/
def stripLater (cs : List Char) : List Char :=
  match stretches (· == '\n') cs with
  | [] => []
  | first :: later => unlines (first :: later.map stripIndent)

theorem newline_of_isMark (hc : isMark c) : (c == '\n') = false :=
  beq_eq_false_iff_ne.mpr (ne_of_isMark hc (by decide))

theorem stripIndents_mark (hc : isMark c) (x y : List Char) :
    stripIndents (x ++ c :: y) = stripIndents x ++ c :: stripLater y := by
  obtain ⟨before, last, first, later, hx, hy, hwhole⟩ :=
    stretches_append (p := (· == '\n')) (newline_of_isMark hc) x y
  simp only [stripIndents, stripLater, hx, hy, hwhole, List.map_append, List.map_cons,
    List.map_nil, stripIndent_mark hc]
  exact unlines_append _ _ _ _

theorem stripLater_mark (hc : isMark c) (x y : List Char) :
    stripLater (x ++ c :: y) = stripLater x ++ c :: stripLater y := by
  obtain ⟨before, last, first, later, hx, hy, hwhole⟩ :=
    stretches_append (p := (· == '\n')) (newline_of_isMark hc) x y
  cases before with
  | nil =>
    simp only [stripLater, hx, hy, hwhole, List.nil_append, List.map_nil]
    exact unlines_append [] _ _ _
  | cons line before =>
    simp only [stripLater, hx, hy, hwhole, List.cons_append, List.map_append, List.map_cons,
      List.map_nil, stripIndent_mark hc]
    exact unlines_append (line :: _) _ _ _

theorem stripIndent_sublist (line : List Char) : (stripIndent line).Sublist line := by
  simp only [stripIndent]
  split
  · exact List.dropWhile_sublist _
  · exact .refl _

theorem unlines_stripped_sublist (lines : List (List Char)) :
    (unlines (lines.map stripIndent)).Sublist (unlines lines) := by
  induction lines with
  | nil => exact .slnil
  | cons line lines ih =>
    cases lines with
    | nil => exact stripIndent_sublist line
    | cons second lines =>
      rw [List.map_cons, unlines_cons (by simp), unlines_cons (List.cons_ne_nil _ _)]
      exact (stripIndent_sublist line).append (ih.cons_cons _)

/-- Joined lines do not change only if none of them does. -/
theorem unlines_stripped_eq_iff {lines : List (List Char)} :
    unlines (lines.map stripIndent) = unlines lines ↔ ∀ line ∈ lines, stripIndent line = line := by
  refine ⟨fun heq => ?_, fun h => by rw [List.map_congr_left h, List.map_id']⟩
  induction lines with
  | nil => exact nofun
  | cons line lines ih =>
    cases lines with
    | nil => exact List.forall_mem_singleton.mpr heq
    | cons second lines =>
      rw [List.map_cons, unlines_cons (by simp), unlines_cons (List.cons_ne_nil _ _)] at heq
      have hline := (stripIndent_sublist line).length_le
      have hlines := (unlines_stripped_sublist (second :: lines)).length_le
      have hlength := congrArg List.length heq
      simp only [List.length_append, List.length_cons] at hlength hlines
      obtain ⟨hfirst, hrest⟩ := List.append_inj heq (by omega)
      exact List.forall_mem_cons.mpr ⟨hfirst, ih (List.cons.inj hrest).2⟩

theorem stripLater_eq_iff :
    stripLater cs = cs ↔ ∀ line ∈ (stretches (· == '\n') cs).tail, stripIndent line = line := by
  have hcs := unlines_stretches cs
  obtain ⟨first, later, hlines⟩ := List.exists_cons_of_ne_nil (stretches_ne_nil (· == '\n') cs)
  simp only [stripLater, hlines, List.tail_cons] at hcs ⊢
  rw [← unlines_stripped_eq_iff, ← hcs]
  cases later with
  | nil => simp
  | cons second later =>
    rw [unlines_cons (List.cons_ne_nil _ _), List.map_cons, unlines_cons (List.cons_ne_nil _ _)]
    simp

theorem stripLater_local : Local stripLater where
  sublist cs := by
    have hcs := unlines_stretches cs
    obtain ⟨first, later, hlines⟩ := List.exists_cons_of_ne_nil (stretches_ne_nil (· == '\n') cs)
    simp only [stripLater, hlines] at hcs ⊢
    rw [← hcs]
    cases later with
    | nil => exact .refl _
    | cons second later =>
      rw [unlines_cons (List.cons_ne_nil _ _), List.map_cons, unlines_cons (List.cons_ne_nil _ _)]
      have hlater := unlines_stripped_sublist (second :: later)
      exact (List.Sublist.refl first).append (hlater.cons_cons _)
  mark x _ y hc := stripLater_mark hc x y

/-! ## Comments -/

/-- Whether a comment has been opened and not been closed at the end of a text. -/
def inComment : List Char → Bool
  | '{' :: '#' :: rest =>
    match _h : afterComment? rest with
    | some after => inComment after
    | none => true
  | _ :: rest => inComment rest
  | [] => false
termination_by cs => cs.length
decreasing_by
  · have := length_of_afterComment? ‹_›; simp; omega
  · simp

theorem afterComment?_append (h : afterComment? x = some rest) (y : List Char) :
    afterComment? (x ++ y) = some (rest ++ y) := by
  fun_induction afterComment? x with
  | case1 => cases h; rfl
  | case2 d x hne ih =>
    rw [List.cons_append, afterComment?, ih h]
    rintro after rfl heq
    cases x with
    | nil => cases h
    | cons e x => cases heq; exact hne x rfl rfl
  | case3 => cases h

theorem exists_of_afterComment? (h : afterComment? cs = some rest) :
    ∃ comment, cs = comment ++ '#' :: '}' :: rest := by
  fun_induction afterComment? cs with
  | case1 => cases h; exact ⟨[], rfl⟩
  | case2 d cs _ ih =>
    obtain ⟨comment, rfl⟩ := ih h
    exact ⟨d :: comment, rfl⟩
  | case3 => cases h

theorem afterComment?_eq_none_iff : afterComment? cs = none ↔ contains ['#', '}'] cs = false := by
  fun_induction afterComment? cs with
  | case1 rest => simp [contains]
  | case2 d rest hne ih =>
    rw [ih, contains_cons_iff, iff_and_self]
    rintro _ ⟨after, heq⟩
    cases heq
    exact hne after rfl rfl
  | case3 => simp [contains]

theorem afterComment?_cons (h : ¬ ['#', '}'] <+: c :: rest) :
    afterComment? (c :: rest) = afterComment? rest := by
  rw [afterComment?]
  rintro after rfl rfl
  exact h ⟨after, rfl⟩

/-- A mark does not close a comment. -/
theorem afterComment?_mark (h : afterComment? x = none) (hc : isMark c) (y : List Char) :
    afterComment? (x ++ c :: y) = afterComment? y := by
  fun_induction afterComment? x with
  | case1 => cases h
  | case2 d x hne ih =>
    rw [List.cons_append, afterComment?_cons, ih h]
    rw [← List.cons_append, prefix_append_mark (by decide) hc]
    rintro ⟨after, heq⟩
    cases heq
    exact hne after rfl rfl
  | case3 => exact afterComment?_cons (not_prefix_mark (by decide) hc)

theorem shrinkComments_closed {after : List Char} (h : afterComment? rest = some after) :
    shrinkComments ('{' :: '#' :: rest) = '{' :: '#' :: '#' :: '}' :: shrinkComments after := by
  rw [shrinkComments]
  split <;> simp_all

theorem shrinkComments_open (h : afterComment? rest = none) :
    shrinkComments ('{' :: '#' :: rest) = '{' :: '#' :: rest := by
  rw [shrinkComments]
  split <;> simp_all

theorem shrinkComments_cons (h : ¬ ['{', '#'] <+: c :: rest) :
    shrinkComments (c :: rest) = c :: shrinkComments rest := by
  rw [shrinkComments]
  rintro after rfl rfl
  exact h ⟨after, rfl⟩

theorem inComment_closed {after : List Char} (h : afterComment? rest = some after) :
    inComment ('{' :: '#' :: rest) = inComment after := by
  rw [inComment]
  split <;> simp_all

theorem inComment_open (h : afterComment? rest = none) :
    inComment ('{' :: '#' :: rest) = true := by
  rw [inComment]
  split <;> simp_all

theorem inComment_cons (h : ¬ ['{', '#'] <+: c :: rest) :
    inComment (c :: rest) = inComment rest := by
  rw [inComment]
  rintro after rfl rfl
  exact h ⟨after, rfl⟩

theorem shrinkComments_eq_of_unclosed (h : contains ['#', '}'] cs = false) :
    shrinkComments cs = cs := by
  fun_induction shrinkComments cs with
  | case1 rest after hafter ih =>
    have hrest := contains_within h (List.suffix_append ['{', '#'] rest).isInfix
    rw [afterComment?_eq_none_iff.mpr hrest] at hafter
    cases hafter
  | case2 rest hafter => rfl
  | case3 c rest hne ih => rw [ih (contains_cons_eq_false.mp h).2]
  | case4 => rfl

/-- Comments shrink on either side of a mark, unless one stretches over it. -/
theorem shrinkComments_mark (hc : isMark c)
    (h : inComment x = false ∨ contains ['#', '}'] y = false) :
    shrinkComments (x ++ c :: y) = shrinkComments x ++ c :: shrinkComments y := by
  fun_induction shrinkComments x with
  | case1 rest after hafter ih =>
    rw [inComment_closed hafter] at h
    have hwhole := afterComment?_append hafter (c :: y)
    rw [List.cons_append, List.cons_append, shrinkComments_closed hwhole, ih h]
    rfl
  | case2 rest hafter =>
    rw [inComment_open hafter] at h
    have hy : contains ['#', '}'] y = false := h.resolve_left (by decide)
    have hwhole : afterComment? (rest ++ c :: y) = none := by
      rw [afterComment?_mark hafter hc]
      exact afterComment?_eq_none_iff.mpr hy
    rw [List.cons_append, List.cons_append, shrinkComments_open hwhole,
      shrinkComments_eq_of_unclosed hy]
    rfl
  | case3 d rest hne ih =>
    have hd : ¬ ['{', '#'] <+: d :: rest := by
      rintro ⟨after, heq⟩
      cases heq
      exact hne after rfl rfl
    rw [inComment_cons hd] at h
    rw [List.cons_append, shrinkComments_cons, ih h]
    · rfl
    · rwa [← List.cons_append, prefix_append_mark (by decide) hc]
  | case4 => rw [List.nil_append, shrinkComments_cons (not_prefix_mark (by decide) hc)]; rfl

theorem length_shrinkComments_le (cs : List Char) : (shrinkComments cs).length ≤ cs.length := by
  fun_induction shrinkComments cs with
  | case1 rest after hafter ih =>
    obtain ⟨comment, rfl⟩ := exists_of_afterComment? hafter
    simp only [List.length_cons, List.length_append]
    omega
  | case2 rest hafter => rfl
  | case3 c rest hne ih => simpa using ih
  | case4 => rfl

end TextTemplate.Source
