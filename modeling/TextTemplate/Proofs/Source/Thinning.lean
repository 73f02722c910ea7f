import TextTemplate.Proofs.Source.CommentLines
import TextTemplate.Proofs.Source.Quoted

/-!
# What white space control may delete

White space control takes the line break at the end and the comments out of a source, and then goes
over the text that is left six times. Each time it deletes some characters and says why: two passes
delete white space around tags, and four delete dashes at the delimiters of tags, with the white
space on the other side of the dash.
-/

namespace TextTemplate.Source

open Text

variable {trimming : Trimming} {cs out text x y rest : List Char} {a b c d : Char}

/-! ## Deleted characters -/

/-- Why a character is deleted between two texts. -/
abbrev Reason := List Char → Char → List Char → Prop

variable {may : Reason} {passes : List Reason}

/-- Characters of a text are deleted, each of them for the reason. The marks say which characters of
the text are kept. -/
def Thinned (may : Reason) (before after : List Char) : Prop :=
  ∃ marks : List (Char × Bool), marks.map Prod.fst = before ∧
    (marks.filter Prod.snd).map Prod.fst = after ∧
      ∀ x c y, marks = x ++ (c, false) :: y → may (x.map Prod.fst) c (y.map Prod.fst)

/-- One pass after the other, each with its reason, deletes characters of what the passes before it
have left. -/
inductive ThinnedBy : List Reason → List Char → List Char → Prop
  | nil (cs : List Char) : ThinnedBy [] cs cs
  | cons {may : Reason} {passes : List Reason} {cs text out : List Char} (h : Thinned may cs text)
    (hrest : ThinnedBy passes text out) : ThinnedBy (may :: passes) cs out

theorem Thinned.sublist (h : Thinned may cs out) : out.Sublist cs := by
  obtain ⟨marks, rfl, rfl, -⟩ := h
  exact List.filter_sublist.map _

/-- Characters that there is no reason to delete come out complete and in order. -/
theorem Thinned.filter_eq {p : Char → Bool} (h : Thinned may cs out)
    (hp : ∀ x c y, may x c y → p c = false) : out.filter p = cs.filter p := by
  obtain ⟨marks, rfl, rfl, hmay⟩ := h
  rw [List.filter_map, List.filter_map, List.filter_filter]
  refine congrArg _ (List.filter_congr fun mark hmem => ?_)
  obtain ⟨x, y, hmarks⟩ := List.append_of_mem hmem
  obtain ⟨c, keep⟩ := mark
  cases keep with
  | true => simp
  | false => simp [hp _ _ _ (hmay x c y hmarks)]

theorem Thinned.refl (may : Reason) (cs : List Char) : Thinned may cs cs := by
  refine ⟨cs.map (·, true), by simp [Function.comp_def], ?_, fun x c y hmarks => ?_⟩
  · rw [List.filter_map]
    simp [Function.comp_def]
  · have hmem : (c, false) ∈ cs.map (·, true) := by simp [hmarks]
    simp at hmem

/-- A reason that looks at the character and at what is behind it alone. -/
def Forward (may : Reason) : Prop := ∀ c x d y, may x d y → may (c :: x) d y

theorem Thinned.cons (hforward : Forward may) (keep : Bool) (h : Thinned may cs out)
    (hc : keep = false → may [] c cs) :
    Thinned may (c :: cs) (if keep then c :: out else out) := by
  obtain ⟨marks, rfl, rfl, hmay⟩ := h
  refine ⟨(c, keep) :: marks, rfl, ?_, fun x d y hmarks => ?_⟩
  · cases keep <;> simp
  · cases x with
    | nil =>
      obtain ⟨hmark, rfl⟩ := List.cons.inj hmarks
      cases hmark
      exact hc rfl
    | cons mark x =>
      obtain ⟨-, hmarks⟩ := List.cons.inj hmarks
      exact hforward _ _ _ _ (hmay x d y hmarks)

theorem Thinned.keep (hforward : Forward may) (c : Char) (h : Thinned may cs out) :
    Thinned may (c :: cs) (c :: out) :=
  h.cons hforward true nofun

theorem Thinned.drop (hforward : Forward may) (h : Thinned may cs out) (hc : may [] c cs) :
    Thinned may (c :: cs) out :=
  h.cons hforward false fun _ => hc

/-- Deletions read from the other end. -/
theorem Thinned.reverse (h : Thinned may cs out) :
    Thinned (fun x c y => may y.reverse c x.reverse) cs.reverse out.reverse := by
  obtain ⟨marks, rfl, rfl, hmay⟩ := h
  refine ⟨marks.reverse, List.map_reverse, by rw [List.filter_reverse, List.map_reverse], ?_⟩
  intro x c y hmarks
  rw [← List.map_reverse, ← List.map_reverse]
  refine hmay _ _ _ ?_
  rw [← List.reverse_reverse marks, hmarks]
  simp

theorem ThinnedBy.sublist (h : ThinnedBy passes cs out) : out.Sublist cs := by
  induction h with
  | nil => exact .refl _
  | cons h _ ih => exact ih.trans h.sublist

theorem ThinnedBy.filter_eq {p : Char → Bool} (h : ThinnedBy passes cs out)
    (hp : ∀ may ∈ passes, ∀ x c y, may x c y → p c = false) : out.filter p = cs.filter p := by
  induction h with
  | nil => rfl
  | cons h _ ih =>
    obtain ⟨hmay, hpasses⟩ := List.forall_mem_cons.mp hp
    rw [ih hpasses, h.filter_eq hmay]

/-! ## The passes -/

/-- Indentation. -/
def Indentation : Reason := fun _ c _ => isIndent c

/-- Line breaks. -/
def LineBreak : Reason := fun _ c _ => c = '\n'

/-- White space, and dashes right in front of a closing delimiter. -/
def BeforeClosing (a b : Char) : Reason := fun _ c y =>
  isBlank c ∨ (c = '-' ∧ [a, b] <+: y)

/-- White space, and dashes right behind an opening delimiter. -/
def BehindOpening (a b : Char) : Reason := fun x c _ =>
  isBlank c ∨ (c = '-' ∧ [a, b] <:+ x)

/-- The passes that delete white space and dashes, in order. -/
def reasons : List Reason :=
  [Indentation, LineBreak, BeforeClosing '%' '}', BehindOpening '{' '%', BeforeClosing '}' '}',
    BehindOpening '{' '{']

/-- Neither white space nor a dash. -/
def isOrdinary (c : Char) : Bool := !isBlank c && c != '-'

theorem not_ordinary_of_reason (hmem : may ∈ reasons) (h : may x c y) : isOrdinary c = false := by
  have hblank : isBlank c → isOrdinary c = false := by
    intro hc
    simp [isOrdinary, hc]
  have hdash (hc : c = '-') : isOrdinary c = false := by
    rw [hc]
    decide
  simp only [reasons, List.mem_cons, List.not_mem_nil, or_false] at hmem
  rcases hmem with rfl | rfl | rfl | rfl | rfl | rfl
  · have hindent : c = ' ' ∨ c = '\t' := by simpa [Indentation, isIndent] using h
    rcases hindent with rfl | rfl <;> decide
  · rw [show c = '\n' from h]
    decide
  all_goals exact h.elim hblank fun h => hdash h.1

theorem tightenFrom_thinned (a b : Char) (dropping : Bool) (cs : List Char) :
    Thinned (BeforeClosing a b) cs (tightenFrom a b dropping cs) := by
  have hforward : Forward (BeforeClosing a b) := fun _ _ _ _ h => h
  fun_induction tightenFrom a b dropping cs with
  | case1 dropping x y rest hxy ih =>
    simp only [Bool.and_eq_true, beq_iff_eq] at hxy
    obtain ⟨rfl, rfl⟩ := hxy
    exact ((ih.keep hforward y).keep hforward x).drop hforward (.inr ⟨rfl, rest, rfl⟩)
  | case2 dropping x y rest hxy ih => exact ih.keep hforward _
  | case3 dropping c rest _ hdrop ih =>
    exact ih.drop hforward (.inl (Bool.and_eq_true_iff.mp hdrop).2)
  | case4 dropping c rest _ hdrop ih => exact ih.keep hforward _
  | case5 => exact .refl _ _

theorem tightenBefore_thinned (a b : Char) (cs : List Char) :
    Thinned (BehindOpening a b) cs (tightenBefore a b cs) := by
  have h := (tightenFrom_thinned b a false cs.reverse).reverse
  have hreason : (fun x c y => BeforeClosing b a y.reverse c x.reverse) = BehindOpening a b := by
    funext x c y
    rw [BeforeClosing, BehindOpening, ← List.reverse_suffix, List.reverse_reverse]
    rfl
  rwa [hreason, List.reverse_reverse] at h

theorem tighten_thinned (cs : List Char) :
    ThinnedBy (reasons.drop 2) cs (tighten cs) :=
  .cons (tightenFrom_thinned '%' '}' false cs) <| .cons (tightenBefore_thinned '{' '%' _) <|
    .cons (tightenFrom_thinned '}' '}' false _) <| .cons (tightenBefore_thinned '{' '{' _) <|
      .nil _

/-! ## White space around tags -/

/-- Characters are deleted in front of opening braces that are kept, and behind closing braces. -/
inductive Trims (may : Char → Prop) : List Char → List Char → Prop
  | nil : Trims may [] []
  | keep {cs out : List Char} (c : Char) (h : Trims may cs out) : Trims may (c :: cs) (c :: out)
  | front {c : Char} {cs out : List Char} (hc : may c) (h : Trims may cs ('{' :: out)) :
    Trims may (c :: cs) ('{' :: out)
  | behind {c : Char} {cs out : List Char} (hc : may c) (h : Trims may cs out) :
    Trims may ('}' :: c :: cs) ('}' :: out)

namespace Trims

variable {p : Char → Prop} {out' : List Char}

theorem refl (p : Char → Prop) (cs : List Char) : Trims p cs cs := by
  induction cs with
  | nil => exact .nil
  | cons c cs ih => exact .keep c ih

theorem append (h : Trims p x out) (h' : Trims p y out') : Trims p (x ++ y) (out ++ out') := by
  induction h with
  | nil => exact h'
  | keep c _ ih => exact .keep c ih
  | front hc _ ih => exact .front hc ih
  | behind hc _ ih => exact .behind hc ih

theorem exists_of_cons (h : Trims p (c :: cs) out) (hc : ¬ p c) (hclose : c ≠ '}') :
    ∃ out', out = c :: out' ∧ Trims p cs out' := by
  cases h with
  | keep _ h => exact ⟨_, rfl, h⟩
  | front hc' => exact absurd hc' hc
  | behind => exact absurd rfl hclose

theorem exists_of_kept (h : Trims p cs (c :: out)) (hopen : c ≠ '{') (hclose : c ≠ '}') :
    ∃ cs', cs = c :: cs' ∧ Trims p cs' out := by
  cases h with
  | keep _ h => exact ⟨_, rfl, h⟩
  | front => exact absurd rfl hopen
  | behind => exact absurd rfl hclose

/-- An empty comment comes from an empty comment. -/
theorem prefix_of_prefix (h : Trims p cs out) (hout : ['#', '#', '}'] <+: out) :
    ['#', '#', '}'] <+: cs := by
  obtain ⟨rest, rfl⟩ := hout
  obtain ⟨cs, rfl, hbehind⟩ := h.exists_of_kept (by decide) (by decide)
  obtain ⟨cs, rfl, hbrace⟩ := hbehind.exists_of_kept (by decide) (by decide)
  cases hbrace with
  | keep => exact ⟨_, rfl⟩
  | behind => exact ⟨_, rfl⟩

/-- With the empty comments gone, still nothing else is deleted. -/
theorem thinned_eraseComments (h : Trims p cs out) (hp : ∀ c, p c → isBlank c) :
    Thinned (fun _ c _ => p c) (eraseComments cs) (eraseComments out) := by
  have hforward : Forward (fun _ c _ => p c) := fun _ _ _ _ h => h
  have hblank {c : Char} (hc : isBlank c = false) : ¬ p c := fun h => by simp [hp c h] at hc
  have hdeleted {c : Char} (hc : p c) (cs : List Char) :
      eraseComments (c :: cs) = c :: eraseComments cs := by
    refine eraseComments_cons fun hprefix => hblank (c := c) ?_ hc
    rw [← (List.cons_prefix_cons.mp hprefix).1]
    decide
  induction hlength : cs.length using Nat.strong_induction_on generalizing cs out with
  | h length ih =>
    subst hlength
    cases h with
    | nil => exact .refl _ _
    | @keep cs out c h =>
      by_cases hprefix : ['{', '#', '#', '}'] <+: c :: cs
      · obtain ⟨rest, heq⟩ := hprefix
        cases heq
        obtain ⟨out, rfl, hbehind⟩ := h.exists_of_cons (hblank (by decide)) (by decide)
        obtain ⟨out, rfl, hbrace⟩ := hbehind.exists_of_cons (hblank (by decide)) (by decide)
        cases hbrace with
        | @keep _ out _ hrest =>
          show Thinned _ (eraseComments rest) (eraseComments out)
          exact ih _ (by simp; omega) hrest rfl
        | front hc => exact absurd hc (hblank (by decide))
        | @behind d cs out hd hrest =>
          show Thinned _ (eraseComments (d :: cs)) (eraseComments out)
          rw [hdeleted hd]
          exact (ih _ (by simp; omega) hrest rfl).drop hforward hd
      · have hprefix' : ¬ ['{', '#', '#', '}'] <+: c :: out := by
          intro hout
          obtain ⟨rfl, hbehind⟩ := List.cons_prefix_cons.mp hout
          exact hprefix (List.cons_prefix_cons.mpr ⟨rfl, h.prefix_of_prefix hbehind⟩)
        rw [eraseComments_cons hprefix, eraseComments_cons hprefix']
        exact (ih _ (by simp) h rfl).keep hforward c
    | @front c cs out hc h =>
      rw [hdeleted hc]
      exact (ih _ (by simp) h rfl).drop hforward hc
    | @behind c cs out hc h =>
      have hbrace (cs : List Char) : eraseComments ('}' :: cs) = '}' :: eraseComments cs :=
        eraseComments_cons (by simp)
      rw [hbrace, hbrace, hdeleted hc]
      have hless : cs.length < ('}' :: c :: cs).length := by
        simp only [List.length_cons]
        omega
      exact ((ih _ hless h rfl).drop hforward hc).keep hforward _

end Trims

theorem stripIndent_trims (line : List Char) :
    Trims (isIndent ·) line (stripIndent line) := by
  have hindent : ∀ indent : List Char, (∀ c ∈ indent, isIndent c) → ∀ body : List Char,
      Trims (isIndent ·) (indent ++ '{' :: body) ('{' :: body) := by
    intro indent h body
    induction indent with
    | nil => exact .refl _ _
    | cons c indent ih =>
      obtain ⟨hc, hindent⟩ := List.forall_mem_cons.mp h
      exact .front hc (ih hindent)
  have hline := List.takeWhile_append_dropWhile (p := isIndent) (l := line)
  rw [stripIndent]
  split
  · rename_i hopens
    obtain ⟨body, hbody⟩ : ∃ body, line.dropWhile isIndent = '{' :: body := by
      rcases opensBlockOrComment_iff.mp hopens with ⟨body, hbody⟩ | ⟨body, hbody⟩
      · exact ⟨_, hbody.symm⟩
      · exact ⟨_, hbody.symm⟩
    have hcut := hindent (line.takeWhile isIndent) (List.all_eq_true.mp List.all_takeWhile) body
    rwa [← hbody, hline] at hcut
  · exact .refl _ _

theorem unlines_trims (lines : List (List Char)) :
    Trims (isIndent ·) (unlines lines) (unlines (lines.map stripIndent)) := by
  induction lines with
  | nil => exact .nil
  | cons line lines ih =>
    cases lines with
    | nil => exact stripIndent_trims line
    | cons second lines =>
      have hlater := List.cons_ne_nil second lines
      rw [unlines_cons hlater, List.map_cons, unlines_cons (mt List.map_eq_nil_iff.mp hlater)]
      exact (stripIndent_trims line).append (ih.keep _)

theorem stripIndents_trims (cs : List Char) : Trims (isIndent ·) cs (stripIndents cs) := by
  have h := unlines_trims (stretches (· == '\n') cs)
  rwa [unlines_stretches] at h

theorem dropBlockNewlines_trims (cs : List Char) : Trims (· = '\n') cs (dropBlockNewlines cs) := by
  fun_induction dropBlockNewlines cs with
  | case1 rest ih => exact .keep _ (.behind rfl ih)
  | case2 rest ih => exact .keep _ (.behind rfl ih)
  | case3 c rest _ _ ih => exact .keep c ih
  | case4 => exact .nil

/-! ## Comments -/

/-- The text without its comments. Comments are read from the front: each one starts where the first
`{#` is that is closed at all, and ends with the first `#}` behind it. -/
inductive Uncommented : List Char → List Char → Prop
  | plain {cs : List Char} (h : Unclosed cs) : Uncommented cs cs
  | comment {front comment behind out : List Char} (hfront : contains ['{', '#'] front = false)
    (hcomment : contains ['#', '}'] comment = false) (h : Uncommented behind out) :
    Uncommented (front ++ '{' :: '#' :: comment ++ '#' :: '}' :: behind) (front ++ out)

theorem Uncommented.sublist (h : Uncommented cs out) : out.Sublist cs := by
  induction h with
  | plain => exact .refl _
  | @comment front comment behind out _ _ _ ih =>
    have hcomment := List.sublist_append_right ('{' :: '#' :: comment ++ ['#', '}']) behind
    simpa using ih.trans hcomment

theorem afterComment?_eq_some_iff : afterComment? cs = some rest ↔
    ∃ comment, contains ['#', '}'] comment = false ∧ cs = comment ++ '#' :: '}' :: rest := by
  refine ⟨fun h => ?_, fun ⟨comment, hcomment, heq⟩ => heq ▸ afterComment?_closed hcomment rest⟩
  fun_induction afterComment? cs with
  | case1 => cases h; exact ⟨[], rfl, rfl⟩
  | case2 d cs hne ih =>
    obtain ⟨comment, hcomment, rfl⟩ := ih h
    refine ⟨d :: comment, contains_cons_iff.mpr ⟨?_, hcomment⟩, rfl⟩
    rintro ⟨after, heq⟩
    cases heq
    exact hne _ rfl rfl
  | case3 => cases h

theorem Uncommented.cons (h : Uncommented cs out) (hc : ¬ ['{', '#'] <+: c :: cs) :
    Uncommented (c :: cs) (c :: out) := by
  cases h with
  | plain h =>
    exact .plain (unclosed_cons (fun rest heq => hc ⟨rest, heq.symm⟩) h)
  | @comment front _ _ _ hfront hcomment h =>
    refine @Uncommented.comment (c :: front) _ _ _ (contains_cons_iff.mpr ⟨fun hopens => hc ?_,
      hfront⟩) hcomment h
    rw [List.append_assoc, ← List.cons_append]
    exact hopens.trans (List.prefix_append _ _)

theorem exists_uncommented (cs : List Char) : ∃ out, Uncommented cs out := by
  fun_induction shrinkComments cs with
  | case1 rest after hafter ih =>
    obtain ⟨comment, hcomment, rfl⟩ := afterComment?_eq_some_iff.mp hafter
    obtain ⟨out, h⟩ := ih
    exact ⟨out, @Uncommented.comment [] _ _ _ rfl hcomment h⟩
  | case2 rest hafter => exact ⟨_, .plain (unclosed_open (afterComment?_eq_none_iff.mp hafter))⟩
  | case3 c rest hne ih =>
    obtain ⟨out, h⟩ := ih
    refine ⟨c :: out, h.cons ?_⟩
    rintro ⟨after, heq⟩
    cases heq
    exact hne after rfl rfl
  | case4 => exact ⟨[], .plain fun rest h => absurd (List.suffix_nil.mp h) (List.cons_ne_nil _ _)⟩

/-- Nothing opens in front of the first comment, whatever rule looks for it. -/
theorem not_prefix_of_front (h : contains ['{', '#'] (d :: x) = false) (y : List Char) :
    ¬ ['{', '#'] <+: d :: (x ++ '{' :: y) := by
  rintro hprefix
  refine (contains_cons_iff.mp h).1 ?_
  cases x with
  | nil => simp at hprefix
  | cons e x => simpa using hprefix

theorem shrinkComments_front (h : contains ['{', '#'] x = false) (y : List Char) :
    shrinkComments (x ++ '{' :: y) = x ++ shrinkComments ('{' :: y) := by
  induction x with
  | nil => rfl
  | cons d x ih =>
    rw [List.cons_append, shrinkComments_cons (not_prefix_of_front h y),
      ih (contains_cons_iff.mp h).2, List.cons_append]

theorem eraseComments_front (h : contains ['{', '#'] x = false) (y : List Char) :
    eraseComments (x ++ '{' :: y) = x ++ eraseComments ('{' :: y) := by
  induction x with
  | nil => rfl
  | cons d x ih =>
    rw [List.cons_append, eraseComments_cons, ih (contains_cons_iff.mp h).2, List.cons_append]
    exact fun hprefix => not_prefix_of_front h y (.trans ⟨['#', '}'], rfl⟩ hprefix)

/-- Comments that shrink and are then erased leave the text without them. -/
theorem Uncommented.eraseComments_eq (h : Uncommented cs out) :
    eraseComments (shrinkComments cs) = out := by
  induction h with
  | plain h => rw [h.shrinkComments_eq, h.eraseComments_eq]
  | @comment front comment behind out hfront hcomment _ ih =>
    have hclosed := afterComment?_closed hcomment behind
    rw [List.append_assoc, List.cons_append, List.cons_append, shrinkComments_front hfront,
      shrinkComments_closed hclosed, eraseComments_front hfront, eraseComments, ih]

theorem Uncommented.unique {out' : List Char} (h : Uncommented cs out) (h' : Uncommented cs out') :
    out = out' :=
  h.eraseComments_eq.symm.trans h'.eraseComments_eq

/-- The line break that is dropped at the very end. -/
def finalNewline (cs : List Char) : List Char := if cs.getLast? == some '\n' then ['\n'] else []

theorem dropFinalNewline_append_finalNewline (cs : List Char) :
    dropFinalNewline cs ++ finalNewline cs = cs := by
  rw [dropFinalNewline, finalNewline]
  split
  · rename_i h
    exact List.dropLast_append_getLast? _ (beq_iff_eq.mp h)
  · exact List.append_nil cs

/-- A line break at the end closes no comment. -/
theorem unclosed_concat_newline (h : Unclosed cs) : Unclosed (cs ++ ['\n']) := by
  intro rest hrest
  obtain ⟨opened, hopened, hsuffix⟩ := (List.suffix_concat_iff.mp hrest).resolve_left nofun
  obtain ⟨inner, rfl, rfl⟩ : ∃ inner, opened = '{' :: '#' :: inner ∧ rest = inner ++ ['\n'] := by
    match opened, hopened with
    | [], hopened => cases hopened
    | [_], hopened => cases hopened
    | _ :: _ :: inner, hopened =>
      cases hopened
      exact ⟨inner, rfl, rfl⟩
  refine contains_eq_false_iff.mpr fun hwithin => ?_
  rcases List.infix_concat_iff.mp hwithin with ⟨front, heq⟩ | hwithin
  · have hlast := congrArg List.getLast? heq
    simp at hlast
  · exact contains_eq_false_iff.mp (h inner hsuffix) hwithin

theorem Uncommented.concat_newline (h : Uncommented cs out) :
    Uncommented (cs ++ ['\n']) (out ++ ['\n']) := by
  induction h with
  | plain h => exact .plain (unclosed_concat_newline h)
  | comment hfront hcomment _ ih =>
    rw [List.append_assoc, List.append_assoc]
    simpa using Uncommented.comment hfront hcomment ih

theorem Uncommented.append_finalNewline (h : Uncommented (dropFinalNewline cs) out) :
    Uncommented cs (out ++ finalNewline cs) := by
  have hcs := dropFinalNewline_append_finalNewline cs
  rw [finalNewline] at hcs ⊢
  split
  · rename_i hnewline
    rw [if_pos hnewline] at hcs
    exact hcs ▸ h.concat_newline
  · rename_i hnewline
    rw [if_neg hnewline, List.append_nil] at hcs
    rw [List.append_nil]
    exact hcs ▸ h

/-! ## All rules together -/

/-- The text that comes out of a source: the source without its comments and the line break at its
end, less what the passes delete. -/
structure Prepared (cs out : List Char) : Prop where
  sublist : out.Sublist cs
  deleted : ∃ text, Uncommented cs (text ++ finalNewline cs) ∧ ThinnedBy reasons text out
  ordinary : ∀ text, Uncommented cs text → out.filter isOrdinary = text.filter isOrdinary

theorem thinnedBy_prepareChars (h : Uncommented (dropFinalNewline cs) text) (trimming : Trimming) :
    ThinnedBy reasons text (prepareChars trimming cs) := by
  have hindents (cs : List Char) :
      Trims (isIndent ·) cs (if trimming.lstripBlocks then stripIndents cs else cs) := by
    split
    · exact stripIndents_trims cs
    · exact .refl _ cs
  have hnewlines (cs : List Char) :
      Trims (· = '\n') cs (if trimming.trimBlocks then dropBlockNewlines cs else cs) := by
    split
    · exact dropBlockNewlines_trims cs
    · exact .refl _ cs
  have hindent : ∀ c, isIndent c → isBlank c := by
    intro c hc
    have hindent : c = ' ' ∨ c = '\t' := by simpa [isIndent] using hc
    rcases hindent with rfl | rfl <;> decide
  have hnewline : ∀ c, c = '\n' → isBlank c := by
    rintro c rfl
    decide
  rw [← h.eraseComments_eq]
  exact .cons ((hindents _).thinned_eraseComments hindent) <|
    .cons ((hnewlines _).thinned_eraseComments hnewline) <| tighten_thinned _

/-- Nothing in a source is deleted whatever the trimming: it has no line break at its end, no comment
and no dash at a delimiter. -/
structure Bare (cs : List Char) : Prop where
  ends : cs.getLast? ≠ some '\n'
  comment : Unclosed cs
  closingBlock : contains ['-', '%', '}'] cs = false
  openingBlock : contains ['{', '%', '-'] cs = false
  closingExpression : contains ['-', '}', '}'] cs = false
  openingExpression : contains ['{', '{', '-'] cs = false

theorem Uncommented.unclosed_or_lt (h : Uncommented cs out) :
    Unclosed cs ∨ out.length < cs.length := by
  cases h with
  | plain h => exact .inl h
  | comment hfront hcomment h =>
    have hbehind := h.sublist.length_le
    refine .inr ?_
    simp only [List.length_append, List.length_cons]
    omega

theorem prepared_prepareChars (trimming : Trimming) (cs : List Char) :
    Prepared cs (prepareChars trimming cs) := by
  obtain ⟨text, htext⟩ := exists_uncommented (dropFinalNewline cs)
  have hthinned := thinnedBy_prepareChars htext trimming
  have huncommented := htext.append_finalNewline
  refine ⟨?_, ⟨text, huncommented, hthinned⟩, fun other hother => ?_⟩
  · exact hthinned.sublist.trans <|
      (List.sublist_append_left text (finalNewline cs)).trans huncommented.sublist
  · have hfinal : (finalNewline cs).filter isOrdinary = [] := by
      rw [finalNewline]
      split
      · decide
      · rfl
    rw [hother.unique huncommented, List.filter_append, hfinal, List.append_nil]
    exact hthinned.filter_eq fun may hmem x c y => not_ordinary_of_reason hmem

theorem prepareChars_none_eq (hends : cs.getLast? ≠ some '\n') (hclosed : Unclosed cs) :
    prepareChars .none cs = tighten cs := by
  have hdropped : dropFinalNewline cs = cs := by
    simp [dropFinalNewline, hends]
  show tighten (eraseComments (shrinkComments (dropFinalNewline cs))) = tighten cs
  rw [hdropped, hclosed.shrinkComments_eq, hclosed.eraseComments_eq]

theorem prepareChars_none_eq_iff : prepareChars .none cs = cs ↔ Bare cs := by
  have hdashes := @tighten_eq_iff cs
  constructor
  · intro heq
    obtain ⟨text, huncommented, hthinned⟩ := (prepared_prepareChars .none cs).deleted
    -- what comes out is no longer than each text on the way, and it is as long as the source
    have hpasses := hthinned.sublist.length_le
    have hcomments := huncommented.sublist.length_le
    rw [heq] at hpasses
    rw [List.length_append] at hcomments
    have hfinal : finalNewline cs = [] := List.eq_nil_of_length_eq_zero (by omega)
    have hends : cs.getLast? ≠ some '\n' := by
      intro hlast
      simp [finalNewline, hlast] at hfinal
    have hclosed : Unclosed cs := huncommented.unclosed_or_lt.resolve_right <| by
      rw [hfinal, List.append_nil]
      omega
    rw [prepareChars_none_eq hends hclosed, hdashes] at heq
    exact ⟨hends, hclosed, heq.1, heq.2.1, heq.2.2.1, heq.2.2.2⟩
  · intro h
    rw [prepareChars_none_eq h.ends h.comment, hdashes]
    exact ⟨h.closingBlock, h.openingBlock, h.closingExpression, h.openingExpression⟩

/-- Preparing a source only deletes: the line break at its end, its comments, white space, and
dashes at delimiters. Without trimming the source itself comes out just if it is bare. -/
theorem prepareChars_only_deletes (trimming : Trimming) (cs : List Char) :
    Prepared cs (prepareChars trimming cs) ∧ (prepareChars .none cs = cs ↔ Bare cs) :=
  ⟨prepared_prepareChars trimming cs, prepareChars_none_eq_iff⟩

end TextTemplate.Source
