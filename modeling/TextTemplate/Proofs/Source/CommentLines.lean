import Mathlib.Logic.Relation
import TextTemplate.Proofs.Source.Mark
import TextTemplate.Template

/-!
# Comments on lines of their own

With the white space around tags gone, a comment that has its lines to itself is as good as not
there. The rules of white space control treat whole lines and the text behind them on their own, and
such a comment leaves an empty comment behind, whose line break and indentation go with it.
-/

namespace TextTemplate.Source

open Text

variable {cs x y part rest : List Char} {c d : Char}

/-! ## Texts behind texts -/

/-- The part of a text that is looked for does not stretch over the end of a text whose last
character could only end the part. -/
theorem prefix_append_iff (hx : x ≠ []) (h : ∀ c ∈ x.getLast?, c ∉ part.dropLast) :
    part <+: x ++ y ↔ part <+: x := by
  refine ⟨fun hpart => ?_, fun hpart => hpart.trans (List.prefix_append x y)⟩
  rcases List.prefix_or_prefix_of_prefix hpart (List.prefix_append x y) with hpart | ⟨z, rfl⟩
  · exact hpart
  · rcases List.eq_nil_or_concat z with rfl | ⟨z, d, rfl⟩
    · rw [List.append_nil]
    · obtain ⟨c, hc⟩ := Option.ne_none_iff_exists'.mp (mt List.getLast?_eq_none_iff.mp hx)
      have hmem : c ∈ (x ++ z.concat d).dropLast := by
        rw [List.concat_eq_append, ← List.append_assoc, List.dropLast_concat]
        exact List.mem_append_left z (List.mem_of_getLast? hc)
      exact absurd hmem (h c hc)

/-- What holds of the last character of a text holds of the last character of what it ends with. -/
theorem forall_getLast?_of_suffix {p : Char → Prop} (h : ∀ c ∈ x.getLast?, p c) (hy : y <:+ x) :
    ∀ c ∈ y.getLast?, p c := by
  obtain ⟨z, rfl⟩ := hy
  intro c hc
  refine h c ?_
  rw [List.getLast?_append, hc]
  rfl

theorem shrinkComments_append (hx : inComment x = false) (hend : ∀ c ∈ x.getLast?, c ≠ '{') :
    shrinkComments (x ++ y) = shrinkComments x ++ shrinkComments y := by
  fun_induction shrinkComments x with
  | case1 rest after hafter ih =>
    rw [inComment_closed hafter] at hx
    obtain ⟨comment, rfl⟩ := exists_of_afterComment? hafter
    have hsuffix : after <:+ '{' :: '#' :: (comment ++ '#' :: '}' :: after) :=
      ⟨'{' :: '#' :: comment ++ ['#', '}'], by simp⟩
    have hwhole := afterComment?_append hafter y
    rw [List.cons_append, List.cons_append, shrinkComments_closed hwhole,
      ih hx (forall_getLast?_of_suffix hend hsuffix)]
    rfl
  | case2 rest hafter =>
    rw [inComment_open hafter] at hx
    cases hx
  | case3 d rest hne ih =>
    have hd : ¬ ['{', '#'] <+: d :: rest := by
      rintro ⟨after, heq⟩
      cases heq
      exact hne after rfl rfl
    rw [inComment_cons hd] at hx
    have hwhole : ¬ ['{', '#'] <+: d :: rest ++ y := by
      rwa [prefix_append_iff (List.cons_ne_nil _ _) (by simpa using hend)]
    rw [List.cons_append] at hwhole ⊢
    rw [shrinkComments_cons hwhole,
      ih hx (forall_getLast?_of_suffix hend (List.suffix_cons d rest))]
    rfl
  | case4 => rfl

/-- Shrinking comments does not change what a text ends with. -/
theorem getLast?_shrinkComments (cs : List Char) :
    (shrinkComments cs).getLast? = cs.getLast? := by
  fun_induction shrinkComments cs with
  | case1 rest after hafter ih =>
    obtain ⟨comment, rfl⟩ := exists_of_afterComment? hafter
    simp only [List.getLast?_cons, List.getLast?_append, ih]
    cases after.getLast? <;> simp
  | case2 => rfl
  | case3 d rest hne ih => rw [List.getLast?_cons, List.getLast?_cons, ih]
  | case4 => rfl

theorem stretches_of_forall {p : Char → Bool} (h : ∀ c ∈ cs, p c = false) :
    stretches p cs = [cs] := by
  induction cs with
  | nil => rfl
  | cons c cs ih =>
    obtain ⟨hc, hcs⟩ := List.forall_mem_cons.mp h
    simp [stretches, hc, ih hcs]

theorem stretches_newline (x y : List Char) :
    stretches (· == '\n') (x ++ '\n' :: y) =
      stretches (· == '\n') x ++ stretches (· == '\n') y := by
  induction x with
  | nil => simp [stretches]
  | cons d x ih =>
    obtain ⟨first, later, hx⟩ := List.exists_cons_of_ne_nil (stretches_ne_nil (· == '\n') x)
    rw [List.cons_append, stretches, stretches, ih, hx]
    split <;> rfl

theorem unlines_newline {lines lines' : List (List Char)} (h : lines ≠ []) (h' : lines' ≠ []) :
    unlines (lines ++ lines') = unlines lines ++ '\n' :: unlines lines' := by
  induction lines with
  | nil => exact absurd rfl h
  | cons line lines ih =>
    cases lines with
    | nil => exact unlines_cons h'
    | cons second lines =>
      rw [List.cons_append, unlines_cons (by simp), unlines_cons (List.cons_ne_nil _ _),
        ih (List.cons_ne_nil _ _), List.append_assoc]
      rfl

/-- Each line is stripped of its own indentation. -/
theorem stripIndents_newline (x y : List Char) :
    stripIndents (x ++ '\n' :: y) = stripIndents x ++ '\n' :: stripIndents y := by
  rw [stripIndents, stretches_newline, List.map_append, unlines_newline]
  · rfl
  · simpa using stretches_ne_nil _ x
  · simpa using stretches_ne_nil _ y

theorem dropBlockNewlines_append (hend : ∀ c ∈ x.getLast?, c = '\n') :
    dropBlockNewlines (x ++ y) = dropBlockNewlines x ++ dropBlockNewlines y := by
  fun_induction dropBlockNewlines x with
  | case1 rest ih =>
    have hrest := ih (forall_getLast?_of_suffix hend (List.suffix_append ['#', '}', '\n'] rest))
    simp [dropBlockNewlines, hrest]
  | case2 rest ih =>
    have hrest := ih (forall_getLast?_of_suffix hend (List.suffix_append ['%', '}', '\n'] rest))
    simp [dropBlockNewlines, hrest]
  | case3 d rest hcomment hblock ih =>
    rw [List.cons_append, dropBlockNewlines_cons,
      ih (forall_getLast?_of_suffix hend (List.suffix_cons d rest)), List.cons_append]
    · rw [← List.cons_append, prefix_append_iff (List.cons_ne_nil _ _) fun c hc => by
        rw [hend c hc]
        decide]
      rintro ⟨after, heq⟩
      cases heq
      exact hcomment after rfl rfl
    · rw [← List.cons_append, prefix_append_iff (List.cons_ne_nil _ _) fun c hc => by
        rw [hend c hc]
        decide]
      rintro ⟨after, heq⟩
      cases heq
      exact hblock after rfl rfl
  | case4 => rfl

theorem dropBlockNewlines_eq_nil_iff : dropBlockNewlines cs = [] ↔ cs = [] := by
  fun_cases dropBlockNewlines cs <;> simp

/-- A text still ends with what it ended with, or else with a tag whose line break is gone. -/
theorem getLast?_dropBlockNewlines :
    ∀ c ∈ (dropBlockNewlines cs).getLast?, c = '}' ∨ c ∈ cs.getLast? := by
  fun_induction dropBlockNewlines cs with
  | case1 rest ih | case2 rest ih =>
    intro c hc
    simp only [List.getLast?_cons, Option.getD_some, Option.mem_some_iff] at hc ⊢
    cases hlast : (dropBlockNewlines rest).getLast? with
    | none => exact .inl (by simpa [hlast] using hc.symm)
    | some e =>
      obtain rfl : e = c := by simpa [hlast] using hc
      refine (ih e hlast).imp_right fun he => ?_
      simp [Option.mem_def.mp he]
  | case3 d rest _ _ ih =>
    intro c hc
    simp only [List.getLast?_cons, Option.mem_some_iff] at hc ⊢
    cases hlast : (dropBlockNewlines rest).getLast? with
    | none =>
      obtain rfl := dropBlockNewlines_eq_nil_iff.mp (List.getLast?_eq_none_iff.mp hlast)
      exact .inr hc
    | some e =>
      obtain rfl : e = c := by simpa [hlast] using hc
      refine (ih e hlast).imp_right fun he => ?_
      simp [Option.mem_def.mp he]
  | case4 =>
    intro c hc
    cases hc

theorem eraseComments_append (hend : ∀ c ∈ x.getLast?, c ≠ '{' ∧ c ≠ '#') :
    eraseComments (x ++ y) = eraseComments x ++ eraseComments y := by
  fun_induction eraseComments x with
  | case1 rest ih =>
    have hsuffix : rest <:+ '{' :: '#' :: '#' :: '}' :: rest :=
      List.suffix_append ['{', '#', '#', '}'] rest
    simp [eraseComments, ih (forall_getLast?_of_suffix hend hsuffix)]
  | case2 d rest hcomment ih =>
    rw [List.cons_append, eraseComments_cons,
      ih (forall_getLast?_of_suffix hend (List.suffix_cons d rest)), List.cons_append]
    rw [← List.cons_append, prefix_append_iff (List.cons_ne_nil _ _) (by simpa using hend)]
    rintro ⟨after, heq⟩
    cases heq
    exact hcomment after rfl rfl
  | case3 => rfl

/-! ## Whole lines -/

/-- A text of whole lines in which every comment that is opened is closed. -/
structure WholeLines (cs : List Char) : Prop where
  ends : ∀ c ∈ cs.getLast?, c = '\n'
  closed : inComment cs = false

/-- What becomes of comments and of the white space around tags, up to dashes. -/
def prepareTags (cs : List Char) : List Char :=
  eraseComments (dropBlockNewlines (stripIndents (shrinkComments cs)))

theorem prepareChars_full (cs : List Char) :
    prepareChars .full cs = tighten (prepareTags (dropFinalNewline cs)) := rfl

theorem stripIndents_append (hend : ∀ c ∈ x.getLast?, c = '\n') :
    stripIndents (x ++ y) = stripIndents x ++ stripIndents y ∧
      ∀ c ∈ (stripIndents x).getLast?, c = '\n' := by
  rcases List.eq_nil_or_concat x with rfl | ⟨x, d, rfl⟩
  · exact ⟨rfl, nofun⟩
  · obtain rfl : d = '\n' := hend d (by simp)
    have hx := stripIndents_newline x []
    rw [List.concat_eq_append, List.append_assoc, List.singleton_append, stripIndents_newline, hx]
    exact ⟨by simp [stripIndents, stretches, stripIndent, unlines, opensBlockOrComment],
      by simp [stripIndents, stretches, stripIndent, unlines, opensBlockOrComment]⟩

/-- The lines in front of a text are prepared on their own. -/
theorem WholeLines.prepareTags_append (h : WholeLines x) (y : List Char) :
    prepareTags (x ++ y) = prepareTags x ++ prepareTags y := by
  have hshrunk : ∀ c ∈ (shrinkComments x).getLast?, c = '\n' := by
    rw [getLast?_shrinkComments]
    exact h.ends
  have hshrink : shrinkComments (x ++ y) = shrinkComments x ++ shrinkComments y :=
    shrinkComments_append h.closed fun c hc => by simp [h.ends c hc]
  obtain ⟨hstrip, hstripped⟩ := stripIndents_append (y := shrinkComments y) hshrunk
  rw [prepareTags, hshrink, hstrip, dropBlockNewlines_append hstripped, eraseComments_append]
  · rfl
  · intro c hc
    rcases getLast?_dropBlockNewlines c hc with rfl | hc
    · decide
    · rw [hstripped c hc]
      decide

theorem afterComment?_closed (h : contains ['#', '}'] cs = false) (rest : List Char) :
    afterComment? (cs ++ '#' :: '}' :: rest) = some rest := by
  induction cs with
  | nil => rfl
  | cons d cs ih =>
    obtain ⟨hd, hcs⟩ := contains_cons_iff.mp h
    rw [List.cons_append, afterComment?_cons, ih hcs]
    -- what ends right before the closing delimiter is not closed by its first character
    rintro ⟨after, heq⟩
    cases cs with
    | nil => cases heq
    | cons e cs =>
      cases heq
      exact hd ⟨cs, rfl⟩

/-- Blanks in front of a text open no comment. -/
theorem inComment_indent {indent : List Char} (h : ∀ c ∈ indent, isIndent c) :
    inComment indent = false ∧ shrinkComments indent = indent ∧
      (∀ c ∈ indent.getLast?, c ≠ '{') := by
  have hne : ∀ c ∈ indent, c ≠ '{' := by
    rintro c hc rfl
    exact absurd (h _ hc) (by decide)
  refine ⟨?_, ?_, fun c hc => hne c (List.mem_of_getLast? hc)⟩
  · induction indent with
    | nil => rw [inComment]
    | cons d indent ih =>
      rw [inComment_cons, ih (fun c hc => h c (List.mem_cons_of_mem _ hc))
        fun c hc => hne c (List.mem_cons_of_mem _ hc)]
      exact fun hprefix => hne d List.mem_cons_self (List.cons_prefix_cons.mp hprefix).1.symm
  · refine shrinkComments_eq (contains_eq_false_iff.mpr fun hwithin => ?_)
    exact hne '{' (hwithin.subset List.mem_cons_self) rfl

theorem stripIndents_commentLine {indent : List Char} (h : ∀ c ∈ indent, isIndent c) :
    stripIndents (indent ++ ['{', '#', '#', '}']) = ['{', '#', '#', '}'] := by
  have hbody : (indent ++ ['{', '#', '#', '}']).dropWhile isIndent = ['{', '#', '#', '}'] := by
    rw [List.dropWhile_append_of_pos h]
    rfl
  have hline : ∀ c ∈ indent ++ ['{', '#', '#', '}'], (c == '\n') = false := by
    intro c hc
    refine beq_eq_false_iff_ne.mpr ?_
    rintro rfl
    rcases List.mem_append.mp hc with hc | hc
    · exact absurd (h _ hc) (by decide)
    · exact absurd hc (by decide)
  rw [stripIndents, stretches_of_forall hline, List.map_singleton, stripIndent, hbody]
  rfl

/-- A comment with its lines to itself, with indentation in front. -/
def commentLine (indent comment : List Char) : List Char :=
  indent ++ '{' :: '#' :: (comment ++ ['#', '}', '\n'])

/-- Of a line with nothing in it but a comment nothing is left. -/
theorem prepareTags_commentLine {indent comment : List Char} (hindent : ∀ c ∈ indent, isIndent c)
    (hcomment : contains ['#', '}'] comment = false) (y : List Char) :
    prepareTags (commentLine indent comment ++ y) = prepareTags y := by
  obtain ⟨hclosed, hindented, hend⟩ := inComment_indent hindent
  have hcomments : shrinkComments ('{' :: '#' :: (comment ++ '#' :: '}' :: '\n' :: y)) =
      ['{', '#', '#', '}'] ++ '\n' :: shrinkComments y := by
    rw [shrinkComments_closed (afterComment?_closed hcomment _), shrinkComments_cons (by simp)]
    rfl
  have hshrunk : shrinkComments (commentLine indent comment ++ y) =
      indent ++ ['{', '#', '#', '}'] ++ '\n' :: shrinkComments y := by
    rw [List.append_assoc indent, ← hcomments, ← hindented, ← shrinkComments_append hclosed hend,
      hindented]
    simp [commentLine]
  rw [prepareTags, hshrunk, stripIndents_newline, stripIndents_commentLine hindent]
  simp [dropBlockNewlines, eraseComments, prepareTags]

theorem dropFinalNewline_append (hy : y ≠ []) (x : List Char) :
    dropFinalNewline (x ++ y) = x ++ dropFinalNewline y := by
  obtain ⟨y, d, rfl⟩ := (List.eq_nil_or_concat y).resolve_left hy
  rw [List.concat_eq_append, ← List.append_assoc]
  by_cases hd : d = '\n' <;> simp [dropFinalNewline, hd]

theorem prepareChars_commentLine {front indent comment behind : List Char}
    (hfront : WholeLines front) (hindent : ∀ c ∈ indent, isIndent c)
    (hcomment : contains ['#', '}'] comment = false) (hbehind : behind ≠ []) :
    prepareChars .full (front ++ commentLine indent comment ++ behind) =
      prepareChars .full (front ++ behind) := by
  rw [prepareChars_full, prepareChars_full, dropFinalNewline_append hbehind,
    dropFinalNewline_append hbehind, List.append_assoc, hfront.prepareTags_append,
    hfront.prepareTags_append, prepareTags_commentLine hindent hcomment]

/-! ## Templates -/

/-- The second source has a comment more than the first, with its lines to itself: it starts a line,
with nothing but indentation in front, and the line breaks right behind it. -/
inductive AddsCommentLine : String → String → Prop
  | mk {front indent comment behind : String} (hfront : WholeLines front.toList)
    (hindent : ∀ c ∈ indent.toList, isIndent c)
    (hcomment : contains ['#', '}'] comment.toList = false) (hbehind : behind ≠ "") :
    AddsCommentLine (front ++ behind)
      (front ++ indent ++ "\x7b#" ++ comment ++ "#\x7d\n" ++ behind)

theorem AddsCommentLine.prepareChars_eq {source source' : String}
    (h : AddsCommentLine source source') :
    prepareChars .full source.toList = prepareChars .full source'.toList := by
  obtain ⟨hfront, hindent, hcomment, hbehind⟩ := h
  have hbehind' := mt String.toList_eq_nil_iff.mp hbehind
  have heq := prepareChars_commentLine hfront hindent hcomment hbehind'
  rw [String.toList_append, ← heq]
  simp [commentLine]

/-- Sources that differ by comments with their lines to themselves are prepared the same, and so
they are the same template. -/
theorem compile_of_commentLines {source source' : String}
    (h : Relation.EqvGen AddsCommentLine source source') :
    prepare .full source = prepare .full source' ∧
      compile .full source = compile .full source' := by
  have hprepared : prepareChars .full source.toList = prepareChars .full source'.toList := by
    induction h with
    | rel _ _ hadds => exact hadds.prepareChars_eq
    | refl => rfl
    | symm _ _ _ ih => exact ih.symm
    | trans _ _ _ _ _ ih ih' => exact ih.trans ih'
  refine ⟨congrArg String.ofList hprepared, ?_⟩
  simp only [compile, analyse, Token.ofSource, hprepared]

/-- One comment goes and another one comes. -/
theorem compile_of_commentLines_moved :
    Relation.EqvGen AddsCommentLine "\x7b# a #\x7d\nx\n\n" "x\n \t\x7b# \x7b% if\n#\x7d\n\n" ∧
      compile .full "\x7b# a #\x7d\nx\n\n" =
        compile .full "x\n \t\x7b# \x7b% if\n#\x7d\n\n" := by
  have hfirst : AddsCommentLine "x\n\n" "\x7b# a #\x7d\nx\n\n" :=
    @AddsCommentLine.mk "" "" " a " "x\n\n" ⟨by simp, by simp [inComment]⟩ (by simp)
      (by decide) (by decide)
  have hsecond : AddsCommentLine "x\n\n" "x\n \t\x7b# \x7b% if\n#\x7d\n\n" :=
    @AddsCommentLine.mk "x\n" " \t" " \x7b% if\n" "\n" ⟨by simp, by simp [inComment]⟩
      (by simp [isIndent]) (by decide) (by decide)
  have hmoved := Relation.EqvGen.trans _ _ _ (.symm _ _ (.rel _ _ hfirst)) (.rel _ _ hsecond)
  exact ⟨hmoved, (compile_of_commentLines hmoved).2⟩

end TextTemplate.Source
