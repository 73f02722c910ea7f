import TextTemplate.Proofs.Source.Mark

/-!
# String literals under white space control

What becomes of the contents of a string literal hangs on these contents alone, not on the text
around it, unless a comment stretches over a quote. The contents come through as they are just if
white space control finds nothing in them.
-/

namespace TextTemplate.Source

open Text

variable {trimming : Trimming} {cs x y rest : List Char} {a b c : Char}

/-! ## Contents of string literals -/

/-- The contents of a string literal in single quotes as they are written. -/
def escape (cs : List Char) : List Char := cs.flatMap fun c => if isMark c then ['\\', c] else [c]

@[simp] theorem escape_nil : escape [] = [] := rfl

theorem escape_cons_of_isMark (hc : isMark c) (cs : List Char) :
    escape (c :: cs) = '\\' :: c :: escape cs := by
  simp [escape, hc]

theorem escape_cons (hc : isMark c = false) (cs : List Char) :
    escape (c :: cs) = c :: escape cs := by
  simp [escape, hc]

theorem escape_append (x y : List Char) : escape (x ++ y) = escape x ++ escape y := by
  simp [escape]

theorem escape_eq (h : ∀ c ∈ cs, isMark c = false) : escape cs = cs := by
  induction cs with
  | nil => rfl
  | cons c cs ih =>
    obtain ⟨hc, hcs⟩ := List.forall_mem_cons.mp h
    rw [escape_cons hc, ih hcs]

theorem prefix_escape_iff {part : List Char} (hpart : Unmarked part) :
    part <+: escape cs ↔ part <+: cs := by
  induction part generalizing cs with
  | nil => simp
  | cons d part ih =>
    obtain ⟨hd, hpart⟩ := unmarked_cons.mp hpart
    cases cs with
    | nil => rfl
    | cons c cs =>
      cases hc : isMark c with
      | true =>
        rw [escape_cons_of_isMark hc, List.cons_prefix_cons, List.cons_prefix_cons]
        exact iff_of_false (fun h => ne_of_isMark (by decide) hd h.1.symm)
          fun h => ne_of_isMark hc hd h.1.symm
      | false => rw [escape_cons hc, List.cons_prefix_cons, List.cons_prefix_cons, ih hpart]

/-- A rule that only deletes does to the written contents what it does to the contents. -/
theorem Local.escape {rule : List Char → List Char} (h : Local rule) (cs : List Char) :
    rule (Source.escape cs) = Source.escape (rule cs) := by
  -- By what is left to write, with the characters in front of it that need not be escaped.
  have hbehind : ∀ x, (∀ c ∈ x, isMark c = false) →
      rule (x ++ Source.escape cs) = Source.escape (rule (x ++ cs)) := by
    induction cs with
    | nil =>
      intro x hx
      rw [escape_nil, List.append_nil]
      exact (escape_eq fun c hc => hx c ((h.sublist x).subset hc)).symm
    | cons c cs ih =>
      intro x hx
      cases hc : isMark c with
      | true =>
        have hempty := ih [] nofun
        rw [List.nil_append, List.nil_append] at hempty
        have hx' : Source.escape (rule x) = rule x :=
          escape_eq fun d hd => hx d ((h.sublist x).subset hd)
        have hc' := h.mark [] (Source.escape cs) hc
        rw [h.nil, List.nil_append, List.nil_append] at hc'
        rw [escape_cons_of_isMark hc, h.mark _ _ (by decide), hc', hempty, h.mark _ _ hc,
          escape_append, hx', escape_cons_of_isMark hc]
      | false =>
        have hmore := ih (x ++ [c]) fun d hd => by
          rcases List.mem_append.mp hd with hd | hd
          · exact hx d hd
          · rwa [List.mem_singleton.mp hd]
        rw [escape_cons hc]
        simpa using hmore
  exact hbehind [] nofun

theorem afterComment?_escape (cs : List Char) :
    afterComment? (escape cs) = (afterComment? cs).map escape := by
  fun_induction afterComment? cs with
  | case1 rest =>
    rw [escape_cons (by decide), escape_cons (by decide)]
    rfl
  | case2 d cs hne ih =>
    cases hd : isMark d with
    | true =>
      rw [escape_cons_of_isMark hd, afterComment?_cons (not_prefix_mark (by decide) (by decide)),
        afterComment?_cons (not_prefix_mark (by decide) hd), ih]
    | false =>
      rw [escape_cons hd, afterComment?_cons, ih]
      rw [← escape_cons hd, prefix_escape_iff (by decide)]
      rintro ⟨after, heq⟩
      cases heq
      exact hne after rfl rfl
  | case3 => rfl

theorem shrinkComments_escape (cs : List Char) :
    shrinkComments (escape cs) = escape (shrinkComments cs) := by
  fun_induction shrinkComments cs with
  | case1 rest after hafter ih =>
    have hwritten : afterComment? (escape rest) = some (escape after) := by
      rw [afterComment?_escape, hafter, Option.map_some]
    rw [escape_cons (by decide), escape_cons (by decide), shrinkComments_closed hwritten, ih]
    rfl
  | case2 rest hafter =>
    have hwritten : afterComment? (escape rest) = none := by
      rw [afterComment?_escape, hafter, Option.map_none]
    rw [escape_cons (by decide), escape_cons (by decide), shrinkComments_open hwritten]
  | case3 d rest hne ih =>
    cases hd : isMark d with
    | true =>
      rw [escape_cons_of_isMark hd, shrinkComments_cons (not_prefix_mark (by decide) (by decide)),
        shrinkComments_cons (not_prefix_mark (by decide) hd), ih, escape_cons_of_isMark hd]
    | false =>
      rw [escape_cons hd, shrinkComments_cons, ih, escape_cons hd]
      rw [← escape_cons hd, prefix_escape_iff (by decide)]
      rintro ⟨after, heq⟩
      cases heq
      exact hne after rfl rfl
  | case4 => rw [escape_nil, shrinkComments]

theorem inComment_escape (cs : List Char) : inComment (escape cs) = inComment cs := by
  fun_induction inComment cs with
  | case1 rest after hafter ih =>
    have hwritten : afterComment? (escape rest) = some (escape after) := by
      rw [afterComment?_escape, hafter, Option.map_some]
    rw [escape_cons (by decide), escape_cons (by decide), inComment_closed hwritten, ih]
  | case2 rest hafter =>
    have hwritten : afterComment? (escape rest) = none := by
      rw [afterComment?_escape, hafter, Option.map_none]
    rw [escape_cons (by decide), escape_cons (by decide), inComment_open hwritten]
  | case3 d rest hne ih =>
    cases hd : isMark d with
    | true =>
      rw [escape_cons_of_isMark hd, inComment_cons (not_prefix_mark (by decide) (by decide)),
        inComment_cons (not_prefix_mark (by decide) hd), ih]
    | false =>
      rw [escape_cons hd, inComment_cons, ih]
      rw [← escape_cons hd, prefix_escape_iff (by decide)]
      rintro ⟨after, heq⟩
      cases heq
      exact hne after rfl rfl
  | case4 => rw [escape_nil, inComment]

/-- A string literal in single quotes with the given contents. -/
def literal (cs : List Char) : List Char := '\'' :: escape cs ++ ['\'']

/-- The rules that come after those about comments and indentation. -/
def prepareLines (trimming : Trimming) : List Char → List Char :=
  tighten ∘ eraseComments ∘ (if trimming.trimBlocks then dropBlockNewlines else id)

/-- The rules that come after that about comments, for text that does not start a line. -/
def prepareLater (trimming : Trimming) : List Char → List Char :=
  prepareLines trimming ∘ (if trimming.lstripBlocks then stripLater else id)

/-- What white space control makes of the contents of a string literal. -/
def prepareQuoted (trimming : Trimming) (cs : List Char) : List Char :=
  prepareLater trimming (shrinkComments cs)

/-- What white space control makes of the text in front of a string literal. -/
def prepareFront (trimming : Trimming) (cs : List Char) : List Char :=
  prepareLines trimming
    ((if trimming.lstripBlocks then stripIndents else id) (shrinkComments cs))

/-- What white space control makes of the text behind a string literal. -/
def prepareBehind (trimming : Trimming) (cs : List Char) : List Char :=
  prepareQuoted trimming (dropFinalNewline cs)

theorem prepareChars_eq (trimming : Trimming) (cs : List Char) :
    prepareChars trimming cs = prepareFront trimming (dropFinalNewline cs) := by
  simp only [prepareChars, prepareFront, prepareLines, Function.comp_apply]
  split <;> split <;> rfl

theorem prepareLines_local (trimming : Trimming) : Local (prepareLines trimming) :=
  tighten_local.comp <| eraseComments_local.comp <| .ite dropBlockNewlines_local .id

theorem prepareLater_local (trimming : Trimming) : Local (prepareLater trimming) :=
  (prepareLines_local trimming).comp <| .ite stripLater_local .id

theorem dropFinalNewline_mark (hc : isMark c) (x y : List Char) :
    dropFinalNewline (x ++ c :: y) = x ++ c :: dropFinalNewline y := by
  have hnewline : c ≠ '\n' := ne_of_isMark hc (by decide)
  cases y with
  | nil => simp [dropFinalNewline, hnewline]
  | cons d y =>
    simp only [dropFinalNewline, List.getLast?_append, List.getLast?_cons_cons]
    split <;> simp_all

theorem prepareFront_mark (hc : isMark c)
    (h : inComment x = false ∨ contains ['#', '}'] y = false) :
    prepareFront trimming (x ++ c :: y) =
      prepareFront trimming x ++ c :: prepareQuoted trimming y := by
  have hindents (x y : List Char) :
      (if trimming.lstripBlocks then stripIndents else id) (x ++ c :: y) =
        (if trimming.lstripBlocks then stripIndents else id) x ++
          c :: (if trimming.lstripBlocks then stripLater else id) y := by
    split
    · exact stripIndents_mark hc x y
    · rfl
  rw [prepareFront, shrinkComments_mark hc h, hindents, (prepareLines_local trimming).mark _ _ hc]
  rfl

theorem prepareQuoted_mark (hc : isMark c)
    (h : inComment x = false ∨ contains ['#', '}'] y = false) :
    prepareQuoted trimming (x ++ c :: y) =
      prepareQuoted trimming x ++ c :: prepareQuoted trimming y := by
  rw [prepareQuoted, shrinkComments_mark hc h, (prepareLater_local trimming).mark _ _ hc]
  rfl

theorem prepareQuoted_escape (trimming : Trimming) (cs : List Char) :
    prepareQuoted trimming (escape cs) = escape (prepareQuoted trimming cs) := by
  rw [prepareQuoted, shrinkComments_escape, (prepareLater_local trimming).escape]
  rfl

/-- A text with a string literal in it is prepared piece by piece, unless a comment stretches over a
quote. -/
theorem prepareChars_literal {front behind : List Char} (hfront : inComment front = false)
    (hcs : inComment cs = false ∨ contains ['#', '}'] behind = false) :
    prepareChars trimming (front ++ literal cs ++ behind) =
      prepareFront trimming front ++ literal (prepareQuoted trimming cs) ++
        prepareBehind trimming behind := by
  have hwhole : front ++ literal cs ++ behind =
      front ++ '\'' :: (escape cs ++ '\'' :: behind) := by
    simp [literal]
  have hcs' : inComment (escape cs) = false ∨
      contains ['#', '}'] (dropFinalNewline behind) = false := by
    rw [inComment_escape]
    exact hcs.imp_right fun h => contains_within h (dropFinalNewline_starts behind).isInfix
  rw [hwhole, prepareChars_eq, dropFinalNewline_mark (by decide), dropFinalNewline_mark (by decide),
    prepareFront_mark (by decide) (.inl hfront), prepareQuoted_mark (by decide) hcs',
    prepareQuoted_escape, prepareBehind, literal]
  simp

/-! ## Contents that come through -/

/-- White space control has nothing to change between quotes: no comment is closed there, no line
but the first is indented in front of a block or comment, no line break stands behind one, and no
dash is a marker. -/
structure Inert (trimming : Trimming) (cs : List Char) : Prop where
  comment : ∀ rest, '{' :: '#' :: rest <:+ cs → contains ['#', '}'] rest = false
  indent : trimming.lstripBlocks → ∀ line ∈ (stretches (· == '\n') cs).tail,
    opensBlockOrComment (line.dropWhile isIndent) → line.dropWhile isIndent = line
  newline : trimming.trimBlocks →
    contains ['%', '}', '\n'] cs = false ∧ contains ['#', '}', '\n'] cs = false
  closingBlock : contains ['-', '%', '}'] cs = false
  openingBlock : contains ['{', '%', '-'] cs = false
  closingExpression : contains ['-', '}', '}'] cs = false
  openingExpression : contains ['{', '{', '-'] cs = false

theorem tightenBefore_eq_iff : tightenBefore a b cs = cs ↔ contains [a, b, '-'] cs = false := by
  have hreverse : contains ['-', b, a] cs.reverse = contains [a, b, '-'] cs := by
    rw [Bool.eq_iff_iff, contains_iff_infix, contains_iff_infix, ← List.reverse_infix,
      List.reverse_reverse]
    rfl
  rw [← hreverse, ← tightenAfter_eq_iff, tightenBefore, ← tightenAfter, List.reverse_eq_iff]

theorem tighten_eq_iff : tighten cs = cs ↔ contains ['-', '%', '}'] cs = false ∧
    contains ['{', '%', '-'] cs = false ∧ contains ['-', '}', '}'] cs = false ∧
      contains ['{', '{', '-'] cs = false := by
  have hblock := tightenAfter_local (a := '%') (b := '}') (by decide) (by decide)
  have hopen := tightenBefore_local (a := '{') (b := '%') (by decide) (by decide)
  have hexpression := tightenAfter_local (a := '}') (b := '}') (by decide) (by decide)
  have hopenExpression := tightenBefore_local (a := '{') (b := '{') (by decide) (by decide)
  rw [← tightenAfter_eq_iff, ← tightenBefore_eq_iff, ← tightenAfter_eq_iff, ← tightenBefore_eq_iff]
  have hall := hopenExpression.comp_eq_iff cs (hexpression.comp (hopen.comp hblock))
  have hthree := hexpression.comp_eq_iff cs (hopen.comp hblock)
  have htwo := hopen.comp_eq_iff cs hblock
  simp only [Function.comp_apply] at hall hthree
  rw [tighten, hall, hthree, htwo]
  tauto

theorem eraseComments_eq_iff :
    eraseComments cs = cs ↔ contains ['{', '#', '#', '}'] cs = false := by
  fun_induction eraseComments cs with
  | case1 rest ih =>
    refine iff_of_false (fun heq => ?_) (by simp [contains])
    have hlength := (eraseComments_local.sublist rest).length_le
    rw [heq] at hlength
    simp only [List.length_cons] at hlength
    omega
  | case2 c rest hne ih =>
    rw [List.cons.injEq, ih, contains_cons_iff]
    refine ⟨fun h => ⟨?_, h.2⟩, fun h => ⟨rfl, h.2⟩⟩
    rintro ⟨after, heq⟩
    cases heq
    exact hne after rfl rfl
  | case3 => simp [contains]

/-- No comment is closed in a text. -/
def Unclosed (cs : List Char) : Prop :=
  ∀ rest, '{' :: '#' :: rest <:+ cs → contains ['#', '}'] rest = false

theorem Unclosed.of_cons (h : Unclosed (c :: cs)) : Unclosed cs := fun rest hrest =>
  h rest (hrest.trans (List.suffix_cons c cs))

theorem unclosed_cons (hne : ∀ rest, c :: cs ≠ '{' :: '#' :: rest) (h : Unclosed cs) :
    Unclosed (c :: cs) := by
  intro rest hrest
  rcases List.suffix_cons_iff.mp hrest with heq | hrest
  · exact absurd heq.symm (hne rest)
  · exact h rest hrest

/-- A comment that is opened and not closed closes nothing behind it either. -/
theorem unclosed_open (h : contains ['#', '}'] rest = false) : Unclosed ('{' :: '#' :: rest) := by
  intro rest' hsuffix
  rcases List.suffix_cons_iff.mp hsuffix with heq | hsuffix
  · cases heq
    exact h
  · rcases List.suffix_cons_iff.mp hsuffix with heq | hsuffix
    · cases heq
    · exact contains_within h ((List.suffix_append ['{', '#'] rest').trans hsuffix).isInfix

theorem Unclosed.shrinkComments_eq (h : Unclosed cs) : shrinkComments cs = cs := by
  fun_induction shrinkComments cs with
  | case1 rest after hafter ih =>
    rw [afterComment?_eq_none_iff.mpr (h rest List.suffix_rfl)] at hafter
    cases hafter
  | case2 rest hafter => rfl
  | case3 c rest hne ih => rw [ih h.of_cons]
  | case4 => rfl

theorem Unclosed.eraseComments_eq (h : Unclosed cs) : eraseComments cs = cs := by
  rw [eraseComments_eq_iff, contains_eq_false_iff]
  rintro ⟨before, behind, rfl⟩
  have hbehind := h ('#' :: '}' :: behind) ⟨before, by simp⟩
  simp [contains] at hbehind

/-- A comment that is closed leaves an empty one behind. -/
theorem unclosed_of_shrinkComments
    (h : contains ['{', '#', '#', '}'] (shrinkComments cs) = false) : Unclosed cs := by
  fun_induction shrinkComments cs with
  | case1 rest after hafter ih => simp [contains] at h
  | case2 rest hafter => exact unclosed_open (afterComment?_eq_none_iff.mp hafter)
  | case3 c rest hne ih =>
    exact unclosed_cons (fun after heq => by cases heq; exact hne after rfl rfl)
      (ih (contains_cons_eq_false.mp h).2)
  | case4 => exact fun rest hrest => absurd (List.suffix_nil.mp hrest) (List.cons_ne_nil _ _)

theorem prepareLater_eq_iff : prepareLater trimming cs = cs ↔
    (trimming.lstripBlocks → stripLater cs = cs) ∧
      (trimming.trimBlocks → dropBlockNewlines cs = cs) ∧
        eraseComments cs = cs ∧ tighten cs = cs := by
  have hdrop : Local (if trimming.trimBlocks then dropBlockNewlines else id) :=
    .ite dropBlockNewlines_local .id
  have hstrip : Local (if trimming.lstripBlocks then stripLater else id) :=
    .ite stripLater_local .id
  have hall := (prepareLines_local trimming).comp_eq_iff cs hstrip
  have hlines := tighten_local.comp_eq_iff cs (eraseComments_local.comp hdrop)
  have hcomments := eraseComments_local.comp_eq_iff cs hdrop
  simp only [Function.comp_apply] at hlines
  rw [prepareLater, Function.comp_apply, hall, prepareLines, Function.comp_apply,
    Function.comp_apply, hlines, hcomments]
  split <;> split <;> simp_all <;> tauto

/-- Contents come through white space control just if it finds nothing in them. -/
theorem prepareQuoted_eq_iff : prepareQuoted trimming cs = cs ↔ Inert trimming cs := by
  have hindent : stripLater cs = cs ↔ ∀ line ∈ (stretches (· == '\n') cs).tail,
      opensBlockOrComment (line.dropWhile isIndent) → line.dropWhile isIndent = line := by
    rw [stripLater_eq_iff]
    refine forall₂_congr fun line _ => ?_
    simp only [stripIndent]
    split <;> simp_all
  have hnewline : dropBlockNewlines cs = cs ↔
      contains ['%', '}', '\n'] cs = false ∧ contains ['#', '}', '\n'] cs = false := by
    have hlines := @trimLines_eq_iff .full cs
    simpa only [trimLines, Trimming.full, ↓reduceIte, forall_const] using hlines
  constructor
  · intro heq
    -- Each rule makes the text no longer, so one that comes out again has passed all of them.
    have hlater := (prepareLater_local trimming).sublist (shrinkComments cs)
    have hlength := length_shrinkComments_le cs
    rw [← congrArg List.length heq] at hlength
    have hshrunk := hlater.eq_of_length_le hlength
    have hcs : shrinkComments cs = cs := hshrunk.symm.trans heq
    rw [hcs, prepareLater_eq_iff, hindent, hnewline, tighten_eq_iff] at hshrunk
    obtain ⟨hindent, hnewline, herase, hdashes⟩ := hshrunk
    have hcomment : Unclosed cs := unclosed_of_shrinkComments <| by
      rw [hcs]
      exact eraseComments_eq_iff.mp herase
    exact ⟨hcomment, hindent, hnewline, hdashes.1, hdashes.2.1, hdashes.2.2.1, hdashes.2.2.2⟩
  · intro h
    have hcomment : Unclosed cs := h.comment
    rw [prepareQuoted, hcomment.shrinkComments_eq, prepareLater_eq_iff, hindent, hnewline,
      tighten_eq_iff]
    exact ⟨h.indent, h.newline, hcomment.eraseComments_eq, h.closingBlock, h.openingBlock,
      h.closingExpression, h.openingExpression⟩

end TextTemplate.Source
