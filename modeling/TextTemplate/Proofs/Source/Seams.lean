import Mathlib.Data.List.TakeWhile
import TextTemplate.Proofs.Source.Thinning

/-!
# Rules at the seam of two texts

What a rule of white space control makes of a text that follows another one: the rule goes on behind
the first text, if what it looks for cannot stretch over the seam. Of the first text it remembers
only whether white space is being dropped, or whether a line has just started.
-/

namespace TextTemplate.Source

open Text

variable {cs x y part rest : List Char} {a b c d : Char}

/-- No part of what is looked for, its first character apart, starts the text. -/
def Apart (part y : List Char) : Prop := ∀ z, z <:+ part.tail → z ≠ [] → ¬ z <+: y

theorem apart_of_head (h : ∀ c ∈ y.head?, c ∉ part.tail) : Apart part y := by
  rintro (_ | ⟨c, z⟩) hsuffix hne hprefix
  · exact hne rfl
  · obtain ⟨rest, rfl⟩ := hprefix
    exact h c rfl (hsuffix.subset List.mem_cons_self)

/-- What is looked for does not stretch over such a seam. -/
theorem prefix_append_of_apart (hx : x ≠ []) (h : Apart part y) :
    part <+: x ++ y ↔ part <+: x := by
  refine ⟨fun hpart => ?_, fun hpart => hpart.trans (List.prefix_append x y)⟩
  rcases List.prefix_or_prefix_of_prefix hpart (List.prefix_append x y) with hpart | ⟨z, rfl⟩
  · exact hpart
  · obtain ⟨c, x, rfl⟩ := List.exists_cons_of_ne_nil hx
    by_cases hz : z = []
    · rw [hz, List.append_nil]
    · exact absurd ((List.prefix_append_right_inj _).mp hpart)
        (h z (List.suffix_append x z) hz)

/-- What does not stretch over the end of a text occurs in front of it or behind it. -/
theorem infix_append_of_last (h : ∀ c ∈ x.getLast?, c ∉ part.dropLast)
    (hpart : part <:+: x ++ y) : part <:+: x ∨ part <:+: y := by
  induction x with
  | nil => exact .inr hpart
  | cons d x ih =>
    rcases List.infix_cons_iff.mp hpart with hstart | hlater
    · exact .inl ((prefix_append_iff (List.cons_ne_nil d x) h).mp hstart).isInfix
    · refine (ih (forall_getLast?_of_suffix h (List.suffix_cons d x)) hlater).imp_left fun h => ?_
      exact h.trans (List.suffix_cons d x).isInfix

theorem infix_append_of_apart (h : Apart part y) (hpart : part <:+: x ++ y) :
    part <:+: x ∨ part <:+: y := by
  induction x with
  | nil => exact .inr hpart
  | cons d x ih =>
    rcases List.infix_cons_iff.mp hpart with hstart | hlater
    · exact .inl ((prefix_append_of_apart (List.cons_ne_nil d x) h).mp hstart).isInfix
    · exact (ih hlater).imp_left fun h => h.trans (List.suffix_cons d x).isInfix

/-! ## Dashes -/

theorem tightenFrom_append (h : Apart ['-', a, b] y) (dropping : Bool) (x : List Char) :
    ∃ dropping', tightenFrom a b dropping (x ++ y) =
      tightenFrom a b dropping x ++ tightenFrom a b dropping' y := by
  induction hlength : x.length using Nat.strong_induction_on generalizing dropping x with
  | h length ih =>
    subst hlength
    cases x with
    | nil => exact ⟨dropping, by simp [tightenFrom]⟩
    | cons d x =>
      by_cases hmarker : ['-', a, b] <+: d :: x
      · obtain ⟨rest, heq⟩ := hmarker
        rw [← heq]
        obtain ⟨dropping', hrest⟩ := ih rest.length (by simp [← heq]; omega) true rest rfl
        exact ⟨dropping', by
          simp only [List.cons_append, List.nil_append, tightenFrom_marker, hrest]⟩
      · have hwhole : ¬ ['-', a, b] <+: d :: (x ++ y) := by
          rwa [← List.cons_append, prefix_append_of_apart (List.cons_ne_nil _ _) h]
        rw [List.cons_append, tightenFrom_cons _ hwhole, tightenFrom_cons _ hmarker]
        split
        · exact ih x.length (by simp) true x rfl
        · obtain ⟨dropping', hrest⟩ := ih x.length (by simp) false x rfl
          exact ⟨dropping', by rw [hrest, List.cons_append]⟩

/-- Neither white space nor a dash is dropped. -/
theorem tightenFrom_kept (dropping : Bool) (hc : c ≠ '-') (hblank : isBlank c = false)
    (rest : List Char) :
    tightenFrom a b dropping (c :: rest) = c :: tightenFrom a b false rest := by
  rw [tightenFrom_cons _ fun h => hc (List.cons_prefix_cons.mp h).1.symm, hblank, Bool.and_false]
  rfl

/-- Where no marker starts, the rule goes by. -/
theorem tightenFrom_skip (h : ∀ z, z <:+ x → z ≠ [] → ¬ ['-', a, b] <+: z ++ y) :
    tightenFrom a b false (x ++ y) = x ++ tightenFrom a b false y := by
  induction x with
  | nil => rfl
  | cons d x ih =>
    have hmarker : ¬ ['-', a, b] <+: d :: (x ++ y) := h _ List.suffix_rfl (List.cons_ne_nil _ _)
    rw [List.cons_append, tightenFrom_cons _ hmarker,
      ih fun z hz => h z (hz.trans (List.suffix_cons d x))]
    rfl

theorem tightenFrom_blank {gap : List Char} (hgap : ∀ c ∈ gap, isBlank c) (dropping : Bool)
    (y : List Char) :
    tightenFrom a b dropping (gap ++ y) =
      (if dropping then [] else gap) ++ tightenFrom a b dropping y := by
  induction gap with
  | nil => simp
  | cons c gap ih =>
    obtain ⟨hc, hgap⟩ := List.forall_mem_cons.mp hgap
    have hdash : ¬ ['-', a, b] <+: c :: (gap ++ y) := fun h => by
      rw [← (List.cons_prefix_cons.mp h).1] at hc
      cases hc
    rw [List.cons_append, tightenFrom_cons _ hdash, hc]
    cases dropping <;> simpa using ih hgap

/-- In front of what is no white space it does not matter whether white space is being dropped. -/
theorem tightenFrom_unblank (h : ∀ c ∈ y.head?, isBlank c = false) (dropping : Bool) :
    tightenFrom a b dropping y = tightenFrom a b false y := by
  cases y with
  | nil => simp [tightenFrom]
  | cons c y =>
    by_cases hmarker : ['-', a, b] <+: c :: y
    · obtain ⟨rest, heq⟩ := hmarker
      rw [← heq]
      simp only [List.cons_append, List.nil_append, tightenFrom_marker]
    · rw [tightenFrom_cons _ hmarker, tightenFrom_cons _ hmarker, h c rfl, Bool.and_false]
      rfl

theorem head?_tightenFrom (b : Char) (ha : isBlank a = false)
    (h : ∀ c ∈ y.head?, isBlank c = false) :
    ∀ c ∈ (tightenFrom a b false y).head?, isBlank c = false := by
  rcases tightenFrom_start a b y with heq | ⟨rest, heq⟩
  · rwa [heq]
  · rw [heq]
    rintro c ⟨⟩
    exact ha

theorem tightenFrom_ne_nil (h : y ≠ []) : tightenFrom a b false y ≠ [] := by
  intro heq
  rcases tightenFrom_start a b y with hhead | ⟨rest, hstart⟩
  · rw [heq] at hhead
    exact h (List.head?_eq_none_iff.mp hhead.symm)
  · rw [heq] at hstart
    cases hstart

theorem forall_getLast?_cons {p : Char → Prop} (hc : cs = [] → p c) (h : ∀ d ∈ cs.getLast?, p d) :
    ∀ d ∈ (c :: cs).getLast?, p d := by
  cases hlast : cs.getLast? with
  | none =>
    obtain rfl := List.getLast?_eq_none_iff.mp hlast
    rintro d ⟨⟩
    exact hc rfl
  | some e =>
    rw [List.getLast?_cons, hlast]
    rintro d ⟨⟩
    exact h e hlast

theorem getLast?_tightenFrom (a : Char) (hb : isBlank b = false) (dropping : Bool)
    (h : ∀ c ∈ cs.getLast?, isBlank c = false) :
    ∀ c ∈ (tightenFrom a b dropping cs).getLast?, isBlank c = false := by
  have htail {d : Char} {rest : List Char} (h : ∀ c ∈ (d :: rest).getLast?, isBlank c = false) :
      ∀ c ∈ rest.getLast?, isBlank c = false :=
    forall_getLast?_of_suffix h (List.suffix_cons d rest)
  fun_induction tightenFrom a b dropping cs with
  | case1 dropping x y rest hxy ih =>
    have hrest := ih (htail (htail (htail h)))
    exact forall_getLast?_cons (fun heq => absurd heq (List.cons_ne_nil _ _))
      (forall_getLast?_cons (fun _ => hb) hrest)
  | case2 dropping x y rest hxy ih =>
    exact forall_getLast?_cons (fun heq => absurd heq (tightenFrom_ne_nil (List.cons_ne_nil _ _)))
      (ih (htail h))
  | case3 dropping c rest _ hdrop ih => exact ih (htail h)
  | case4 dropping c rest _ hdrop ih =>
    refine forall_getLast?_cons (fun heq => ?_) (ih (htail h))
    obtain rfl : rest = [] := by_contra fun hne => tightenFrom_ne_nil hne heq
    exact h c rfl
  | case5 => exact h

/-! ## Line breaks -/

theorem dropBlockNewlines_append_of_apart (hcomment : Apart ['#', '}', '\n'] y)
    (hblock : Apart ['%', '}', '\n'] y) :
    dropBlockNewlines (x ++ y) = dropBlockNewlines x ++ dropBlockNewlines y := by
  fun_induction dropBlockNewlines x with
  | case1 rest ih => simp [dropBlockNewlines, ih]
  | case2 rest ih => simp [dropBlockNewlines, ih]
  | case3 d rest hnot hnot' ih =>
    rw [List.cons_append, dropBlockNewlines_cons, ih, List.cons_append]
    · rw [← List.cons_append, prefix_append_of_apart (List.cons_ne_nil _ _) hcomment]
      rintro ⟨after, heq⟩
      cases heq
      exact hnot after rfl rfl
    · rw [← List.cons_append, prefix_append_of_apart (List.cons_ne_nil _ _) hblock]
      rintro ⟨after, heq⟩
      cases heq
      exact hnot' after rfl rfl
  | case4 => rfl

/-- A character that starts no delimiter in question is kept. -/
theorem dropBlockNewlines_kept (hcomment : c ≠ '#') (hblock : c ≠ '%') (rest : List Char) :
    dropBlockNewlines (c :: rest) = c :: dropBlockNewlines rest :=
  dropBlockNewlines_cons (fun h => hcomment (List.cons_prefix_cons.mp h).1.symm)
    fun h => hblock (List.cons_prefix_cons.mp h).1.symm

theorem dropBlockNewlines_blank {gap : List Char} (hgap : ∀ c ∈ gap, isBlank c) (y : List Char) :
    dropBlockNewlines (gap ++ y) = gap ++ dropBlockNewlines y := by
  induction gap with
  | nil => rfl
  | cons c gap ih =>
    obtain ⟨hc, hgap⟩ := List.forall_mem_cons.mp hgap
    have hne : ∀ d, isBlank d = false → c ≠ d := by
      rintro d hd rfl
      rw [hd] at hc
      cases hc
    rw [List.cons_append, dropBlockNewlines_kept (hne _ rfl) (hne _ rfl), ih hgap, List.cons_append]

/-- A line break goes with what is in front of it, or it stays. -/
theorem dropBlockNewlines_newline (x y : List Char) :
    ∃ gap, (gap = [] ∨ gap = ['\n']) ∧
      dropBlockNewlines (x ++ '\n' :: y) = dropBlockNewlines x ++ (gap ++ dropBlockNewlines y) := by
  fun_induction dropBlockNewlines x with
  | case1 rest ih =>
    obtain ⟨gap, hgap, heq⟩ := ih
    exact ⟨gap, hgap, by simp [dropBlockNewlines, heq]⟩
  | case2 rest ih =>
    obtain ⟨gap, hgap, heq⟩ := ih
    exact ⟨gap, hgap, by simp [dropBlockNewlines, heq]⟩
  | case3 d rest hnot hnot' ih =>
    -- only behind a whole delimiter the line break goes
    have hkept (e : Char) (hcut : d = e → rest ≠ ['}'])
        (hnot : ∀ after, d = e → rest = '}' :: '\n' :: after → False) :
        ¬ [e, '}', '\n'] <+: d :: (rest ++ '\n' :: y) := by
      rintro ⟨after, heq⟩
      obtain ⟨hd, heq⟩ := List.cons.inj heq
      rcases rest with _ | ⟨_, _ | ⟨_, _⟩⟩
      · cases heq
      · cases heq
        exact hcut hd.symm rfl
      · cases heq
        exact hnot _ hd.symm rfl
    by_cases hclosed : (d = '#' ∨ d = '%') ∧ rest = ['}']
    · obtain ⟨rfl | rfl, rfl⟩ := hclosed <;>
        exact ⟨[], .inl rfl, by simp [dropBlockNewlines]⟩
    · obtain ⟨gap, hgap, heq⟩ := ih
      rw [List.cons_append, dropBlockNewlines_cons, heq]
      · exact ⟨gap, hgap, by simp⟩
      · exact hkept '#' (fun hd hrest => hclosed ⟨.inl hd, hrest⟩) hnot
      · exact hkept '%' (fun hd hrest => hclosed ⟨.inr hd, hrest⟩) hnot'
  | case4 => exact ⟨['\n'], .inr rfl, by rw [List.nil_append, dropBlockNewlines_kept] <;> simp⟩

/-- White space between two texts is white space still, and none comes about. -/
theorem dropBlockNewlines_gap {gap : List Char} (hgap : ∀ c ∈ gap, isBlank c)
    (hcomment : Apart ['#', '}', '\n'] y) (hblock : Apart ['%', '}', '\n'] y) :
    ∃ gap', (∀ c ∈ gap', isBlank c) ∧ (gap = [] → gap' = []) ∧
      dropBlockNewlines (x ++ (gap ++ y)) =
        dropBlockNewlines x ++ (gap' ++ dropBlockNewlines y) := by
  cases gap with
  | nil => exact ⟨[], nofun, fun _ => rfl, dropBlockNewlines_append_of_apart hcomment hblock⟩
  | cons c gap =>
    obtain ⟨hc, hrest⟩ := List.forall_mem_cons.mp hgap
    by_cases hnewline : c = '\n'
    · subst hnewline
      obtain ⟨gap', hgap', heq⟩ := dropBlockNewlines_newline x (gap ++ y)
      refine ⟨gap' ++ gap, ?_, nofun, ?_⟩
      · rcases hgap' with rfl | rfl
        · exact hrest
        · exact List.forall_mem_cons.mpr ⟨by decide, hrest⟩
      · rw [List.cons_append, heq, dropBlockNewlines_blank hrest, List.append_assoc]
    · refine ⟨c :: gap, hgap, nofun, ?_⟩
      have hbrace : c ≠ '}' := by
        rintro rfl
        cases hc
      have happart (e : Char) : Apart [e, '}', '\n'] (c :: gap ++ y) :=
        apart_of_head fun d hd => by
          obtain rfl : c = d := Option.some.inj hd
          simp [hnewline, hbrace]
      rw [dropBlockNewlines_append_of_apart (happart '#') (happart '%'),
        dropBlockNewlines_blank hgap]

theorem prefix_of_closed (hnot : ¬ [c, d] <:+: part.dropLast) (h : part <+: c :: d :: y) :
    part <+: [c, d] := by
  obtain ⟨z, hz⟩ := h
  match part with
  | [] => exact List.nil_prefix
  | [_] =>
    cases hz
    exact ⟨[d], rfl⟩
  | [_, _] =>
    cases hz
    exact List.prefix_rfl
  | _ :: _ :: e :: part =>
    cases hz
    exact absurd ⟨[], (e :: part).dropLast, rfl⟩ hnot

theorem infix_dropLast_cons (hnot : ¬ [c, d] <:+: (a :: part).dropLast) :
    ¬ [c, d] <:+: part.dropLast := by
  intro h
  cases part with
  | nil => simp at h
  | cons b part => exact hnot (h.trans (List.suffix_cons a _).isInfix)

theorem prefix_of_dropBlockNewlines (hcomment : ¬ ['#', '}'] <:+: part.dropLast)
    (hblock : ¬ ['%', '}'] <:+: part.dropLast) (h : part <+: dropBlockNewlines cs) :
    part <+: cs := by
  fun_induction dropBlockNewlines cs generalizing part with
  | case1 rest ih => exact (prefix_of_closed hcomment h).trans (List.prefix_append ['#', '}'] _)
  | case2 rest ih => exact (prefix_of_closed hblock h).trans (List.prefix_append ['%', '}'] _)
  | case3 d rest _ _ ih =>
    cases part with
    | nil => exact List.nil_prefix
    | cons c part =>
      obtain ⟨rfl, hpart⟩ := List.cons_prefix_cons.mp h
      exact List.cons_prefix_cons.mpr
        ⟨rfl, ih (infix_dropLast_cons hcomment) (infix_dropLast_cons hblock) hpart⟩
  | case4 => exact h

/-- Deleting line breaks brings nothing about that does not hold a closing delimiter of a block or
comment before its end, and does not start with a brace. -/
theorem infix_of_dropBlockNewlines (hhead : ∀ y, ¬ part <+: '}' :: y)
    (hcomment : ¬ ['#', '}'] <:+: part.dropLast) (hblock : ¬ ['%', '}'] <:+: part.dropLast)
    (h : part <:+: dropBlockNewlines cs) : part <:+: cs := by
  fun_induction dropBlockNewlines cs with
  | case1 rest ih =>
    rcases List.infix_cons_iff.mp h with h | h
    · exact ((prefix_of_closed hcomment h).trans (List.prefix_append ['#', '}'] _)).isInfix
    · have hrest := ih ((List.infix_cons_iff.mp h).resolve_left (hhead _))
      exact hrest.trans (List.suffix_append ['#', '}', '\n'] rest).isInfix
  | case2 rest ih =>
    rcases List.infix_cons_iff.mp h with h | h
    · exact ((prefix_of_closed hblock h).trans (List.prefix_append ['%', '}'] _)).isInfix
    · have hrest := ih ((List.infix_cons_iff.mp h).resolve_left (hhead _))
      exact hrest.trans (List.suffix_append ['%', '}', '\n'] rest).isInfix
  | case3 d rest hnot hnot' ih =>
    rcases List.infix_cons_iff.mp h with h | h
    · have hprefix : part <+: dropBlockNewlines (d :: rest) := by
        rw [dropBlockNewlines]
        · exact h
        · exact hnot
        · exact hnot'
      exact (prefix_of_dropBlockNewlines hcomment hblock hprefix).isInfix
    · exact (ih h).trans (List.suffix_cons d rest).isInfix
  | case4 => exact h

/-! ## Indentation -/

/-- Stripping indentation, from the start of a line or from within one. -/
def stripFrom : Bool → List Char → List Char
  | _, [] => []
  | starts, c :: rest =>
    if starts && isIndent c && opensBlockOrComment (rest.dropWhile isIndent) then
      stripFrom true rest
    else c :: stripFrom (c == '\n' || starts && isIndent c) rest

theorem stripFrom_newline (starts : Bool) (x y : List Char) :
    stripFrom starts (x ++ '\n' :: y) = stripFrom starts x ++ '\n' :: stripFrom true y := by
  induction x generalizing starts with
  | nil => simp [stripFrom, isIndent]
  | cons c x ih =>
    have hopens : opensBlockOrComment ((x ++ '\n' :: y).dropWhile isIndent) =
        opensBlockOrComment (x.dropWhile isIndent) := by
      rw [dropWhile_append_cons (by decide), Bool.eq_iff_iff, opensBlockOrComment_iff,
        opensBlockOrComment_iff, prefix_append_cons (by decide), prefix_append_cons (by decide)]
    rw [List.cons_append, stripFrom, stripFrom, hopens, ih, ih]
    split <;> rfl

/-- Within a line without line breaks nothing is stripped. -/
theorem stripFrom_false (h : '\n' ∉ cs) : stripFrom false cs = cs := by
  induction cs with
  | nil => rfl
  | cons c cs ih =>
    obtain ⟨hc, hcs⟩ : '\n' ≠ c ∧ '\n' ∉ cs := by simpa using h
    have hnewline : (c == '\n') = false := beq_eq_false_iff_ne.mpr (Ne.symm hc)
    simp [stripFrom, hnewline, ih hcs]

theorem stripFrom_line (h : '\n' ∉ cs) : stripFrom true cs = stripIndent cs := by
  induction cs with
  | nil => rfl
  | cons c cs ih =>
    obtain ⟨hc, hcs⟩ : '\n' ≠ c ∧ '\n' ∉ cs := by simpa using h
    have hnewline : (c == '\n') = false := beq_eq_false_iff_ne.mpr (Ne.symm hc)
    cases hindent : isIndent c with
    | false => simp [stripFrom, stripIndent, hnewline, hindent, stripFrom_false hcs]
    | true =>
      cases hopens : opensBlockOrComment (cs.dropWhile isIndent) <;>
        simp [stripFrom, stripIndent, hnewline, hindent, hopens, ih hcs]

theorem stripIndents_eq_stripFrom (cs : List Char) : stripIndents cs = stripFrom true cs := by
  induction hlength : cs.length using Nat.strong_induction_on generalizing cs with
  | h length ih =>
    subst hlength
    by_cases hmem : '\n' ∈ cs
    · obtain ⟨x, y, rfl⟩ := List.append_of_mem hmem
      rw [stripIndents_newline, stripFrom_newline, ih x.length _ x rfl, ih y.length _ y rfl] <;>
        simp only [List.length_append, List.length_cons] <;> omega
    · have hline : ∀ c ∈ cs, (c == '\n') = false := fun c hc =>
        beq_eq_false_iff_ne.mpr fun heq => hmem (heq ▸ hc)
      rw [stripIndents, stretches_of_forall hline, stripFrom_line hmem]
      rfl

theorem isIndent_of_isBlank (h : isBlank c = false) : isIndent c = false := by
  cases hc : isIndent c with
  | false => rfl
  | true =>
    simp only [isIndent, Bool.or_eq_true, beq_iff_eq] at hc
    rcases hc with rfl | rfl <;> cases h

theorem stripFrom_kept (hc : isIndent c = false) (starts : Bool) (rest : List Char) :
    stripFrom starts (c :: rest) = c :: stripFrom (c == '\n') rest := by
  simp [stripFrom, hc]

theorem stripFrom_solid (hc : isBlank c = false) (starts : Bool) (rest : List Char) :
    stripFrom starts (c :: rest) = c :: stripFrom false rest := by
  have hnewline : (c == '\n') = false := by
    rw [beq_eq_false_iff_ne]
    rintro rfl
    cases hc
  rw [stripFrom_kept (isIndent_of_isBlank hc), hnewline]

theorem head?_stripFrom (y : List Char) : (stripFrom false y).head? = y.head? := by
  cases y with
  | nil => rfl
  | cons c y => simp [stripFrom]

/-- In front of what is no white space it does not matter whether a line has just started. -/
theorem stripFrom_unblank (h : ∀ c ∈ y.head?, isBlank c = false) (starts : Bool) :
    stripFrom starts y = stripFrom false y := by
  cases y with
  | nil => rfl
  | cons c y => simp only [stripFrom_solid (h c rfl)]

theorem stripFrom_blank {gap : List Char} (hgap : ∀ c ∈ gap, isBlank c) (starts : Bool)
    (y : List Char) :
    ∃ gap' starts', (∀ c ∈ gap', isBlank c) ∧ (gap = [] → gap' = []) ∧
      stripFrom starts (gap ++ y) = gap' ++ stripFrom starts' y := by
  induction gap generalizing starts with
  | nil => exact ⟨[], starts, nofun, fun _ => rfl, rfl⟩
  | cons c gap ih =>
    obtain ⟨hc, hgap⟩ := List.forall_mem_cons.mp hgap
    rw [List.cons_append, stripFrom]
    split
    · obtain ⟨gap', starts', hblank, -, heq⟩ := ih hgap true
      exact ⟨gap', starts', hblank, nofun, heq⟩
    · obtain ⟨gap', starts', hblank, -, heq⟩ := ih hgap (c == '\n' || starts && isIndent c)
      exact ⟨c :: gap', starts', List.forall_mem_cons.mpr ⟨hc, hblank⟩, nofun, by rw [heq]; rfl⟩

/-- Behind a text that does not end with white space, stripping goes on. -/
theorem stripFrom_append (hend : ∀ c ∈ x.getLast?, isBlank c = false)
    (hblock : Apart ['{', '%'] y) (hcomment : Apart ['{', '#'] y) (starts : Bool) :
    ∃ starts', stripFrom starts (x ++ y) = stripFrom starts x ++ stripFrom starts' y := by
  induction x generalizing starts with
  | nil => exact ⟨starts, rfl⟩
  | cons c x ih =>
    have hrest := ih (forall_getLast?_of_suffix hend (List.suffix_cons c x))
    cases hc : isIndent c with
    | false =>
      obtain ⟨starts', heq⟩ := hrest (c == '\n')
      exact ⟨starts', by rw [List.cons_append, stripFrom_kept hc, stripFrom_kept hc, heq]; rfl⟩
    | true =>
      -- the line goes on with something that is no indentation
      have hbody : x.dropWhile isIndent ≠ [] := by
        intro hnil
        rw [List.dropWhile_eq_nil_iff] at hnil
        have hall : ∀ d ∈ c :: x, isIndent d := List.forall_mem_cons.mpr ⟨hc, hnil⟩
        have hlast := hend _ (List.getLast?_eq_some_getLast (List.cons_ne_nil c x))
        have hindent := isIndent_of_isBlank hlast
        rw [hall _ (List.getLast_mem _)] at hindent
        cases hindent
      have hopens : opensBlockOrComment ((x ++ y).dropWhile isIndent) =
          opensBlockOrComment (x.dropWhile isIndent) := by
        rw [List.dropWhile_append, if_neg (by simpa using hbody), Bool.eq_iff_iff,
          opensBlockOrComment_iff, opensBlockOrComment_iff, prefix_append_of_apart hbody hblock,
          prefix_append_of_apart hbody hcomment]
      rw [List.cons_append, stripFrom, stripFrom, hopens]
      split
      · exact hrest true
      · obtain ⟨starts', heq⟩ := hrest (c == '\n' || starts && isIndent c)
        exact ⟨starts', by rw [heq]; rfl⟩

/-- A text in which no block or comment opens is left as it is. -/
theorem stripFrom_skip (h : ∀ z, z <:+ x → opensBlockOrComment (z ++ y) = false)
    (hy : ∀ c ∈ y.head?, isBlank c = false) (starts : Bool) :
    stripFrom starts (x ++ y) = x ++ stripFrom false y := by
  induction x generalizing starts with
  | nil => exact stripFrom_unblank hy starts
  | cons c x ih =>
    have hopens : opensBlockOrComment ((x ++ y).dropWhile isIndent) = false := by
      rw [List.dropWhile_append]
      split
      · cases y with
        | nil => rfl
        | cons d y =>
          rw [List.dropWhile_cons_of_neg (by simp [isIndent_of_isBlank (hy d rfl)])]
          exact h [] (List.nil_suffix)
      · exact h _ ((List.dropWhile_suffix _).trans (List.suffix_cons c x))
    rw [List.cons_append, stripFrom, hopens, Bool.and_false, if_neg Bool.false_ne_true,
      ih fun z hz => h z (hz.trans (List.suffix_cons c x))]
    rfl

/-! ## What trimming keeps -/

namespace Trims

variable {p : Char → Prop} {out : List Char}

/-- Trimming white space does not change that a text ends with none. -/
theorem forall_getLast? (h : Trims p cs out) (hend : ∀ c ∈ cs.getLast?, isBlank c = false) :
    ∀ c ∈ out.getLast?, isBlank c = false := by
  induction h with
  | nil => exact hend
  | @keep cs out c h ih =>
    refine forall_getLast?_cons (fun hout => ?_)
      (ih (forall_getLast?_of_suffix hend (List.suffix_cons c cs)))
    subst hout
    cases h
    exact hend c rfl
  | @front c cs out _ _ ih => exact ih (forall_getLast?_of_suffix hend (List.suffix_cons c cs))
  | @behind c cs out _ _ ih =>
    exact forall_getLast?_cons (fun _ => rfl)
      (ih (forall_getLast?_of_suffix hend (List.suffix_append ['}', c] cs)))

/-- Trimming white space brings no comment about. -/
theorem contains_comment (h : Trims p cs out) (hcs : contains ['{', '#'] cs = false) :
    contains ['{', '#'] out = false := by
  induction h with
  | nil => rfl
  | @keep cs out c h ih =>
    obtain ⟨hc, hrest⟩ := contains_cons_iff.mp hcs
    refine contains_cons_iff.mpr ⟨fun hout => hc ?_, ih hrest⟩
    obtain ⟨rfl, rest, rfl⟩ := List.cons_prefix_cons.mp hout
    obtain ⟨cs, rfl, -⟩ := h.exists_of_kept (by decide) (by decide)
    exact ⟨cs, rfl⟩
  | front _ _ ih => exact ih (contains_cons_iff.mp hcs).2
  | behind _ _ ih =>
    refine contains_cons_iff.mpr ⟨by simp, ih ?_⟩
    exact (contains_cons_iff.mp (contains_cons_iff.mp hcs).2).2

end Trims

end TextTemplate.Source
