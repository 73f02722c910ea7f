import TextTemplate.Host.Stock
import TextTemplate.Proofs.Eval.Objects

/-!
# Texts of scalars

Texts, truth values and whole numbers have a text. All ways of making texts agree about it, apart
from joined texts, in which truth values are written as the host writes them.
-/

namespace TextTemplate

open List (Forall₂)

/-! ## Scalars -/

/-- What has a text: a text, a whole number that is not too long to write, or a truth value. -/
inductive Scalar
  | text (s : String)
  | int (i : Int) (h : (decimalDigits i.natAbs).length ≤ digitLimit)
  | bool (b : Bool)

namespace Scalar

def value : Scalar → Value
  | text s => .text s
  | int i _ => .number (.int i)
  | bool b => .bool b

/-- The text of a scalar in a template. -/
def spelling : Scalar → String
  | text s => s
  | int i _ => String.ofList (integerChars i)
  | bool b => Eval.boolText b

/-- The text of a scalar as the host writes it. -/
def hostSpelling : Scalar → String
  | bool b => if b then "True" else "False"
  | scalar => scalar.spelling

def IsBool (v : Scalar) : Prop := ∃ b, v = bool b

theorem hostSpelling_eq_iff (v : Scalar) : v.hostSpelling = v.spelling ↔ ¬v.IsBool := by
  cases v with
  | text s => simp [hostSpelling, IsBool]
  | int i h => simp [hostSpelling, IsBool]
  | bool b => cases b <;> simp [hostSpelling, spelling, Eval.boolText, IsBool]

theorem length_hostSpelling (v : Scalar) : v.hostSpelling.length = v.spelling.length := by
  cases v with
  | text s => rfl
  | int i h => rfl
  | bool b => cases b <;> rfl

end Scalar

theorem Text.append_inj {a b c d : String} (hlength : a.length = c.length)
    (h : a ++ b = c ++ d) : a = c ∧ b = d := by
  have hchars := congrArg String.toList h
  rw [String.toList_append, String.toList_append] at hchars
  obtain ⟨hfirst, hrest⟩ := List.append_inj hchars hlength
  exact ⟨String.toList_injective hfirst, String.toList_injective hrest⟩

/-- What texts are joined to tells them apart, if they are as long as each other one by one. -/
theorem Text.intercalate_inj {separator : String} {parts others : List String}
    (hlength : Forall₂ (fun part other => part.length = other.length) parts others)
    (h : separator.intercalate parts = separator.intercalate others) : parts = others := by
  induction hlength with
  | nil => rfl
  | cons hpart hrest ih =>
    cases hrest with
    | nil =>
      rw [String.intercalate_singleton, String.intercalate_singleton] at h
      rw [h]
    | cons hpart' hrest' =>
      rw [String.intercalate_cons_cons, String.intercalate_cons_cons] at h
      obtain ⟨hfirst, hothers⟩ := Text.append_inj (by simp [hpart]) h
      rw [(Text.append_inj hpart hfirst).1, ih hothers]

theorem Scalar.intercalate_hostSpelling_iff (separator : String) (vs : List Scalar) :
    separator.intercalate (vs.map hostSpelling) = separator.intercalate (vs.map spelling) ↔
      ∀ v ∈ vs, ¬v.IsBool := by
  have hlength : Forall₂ (fun part other => part.length = other.length) (vs.map hostSpelling)
      (vs.map spelling) := by
    rw [List.forall₂_map_left_iff, List.forall₂_map_right_iff, List.forall₂_same]
    exact fun v _ => v.length_hostSpelling
  simp only [← hostSpelling_eq_iff, ← List.map_inj_left]
  exact ⟨Text.intercalate_inj hlength, congrArg _⟩

namespace Eval

variable {context : Context} {s : State} {o left right separator : Node} {v w : Scalar}
  {mark : String}

theorem integerText?_of_short {i : Int} (h : (decimalDigits i.natAbs).length ≤ digitLimit) :
    integerText? i = some (String.ofList (integerChars i)) :=
  if_neg (Nat.not_lt.mpr h)

theorem numeral_of_short {i : Int} (h : (decimalDigits i.natAbs).length ≤ digitLimit) :
    numeral (.int i) = pure (String.ofList (integerChars i)) := by
  rw [numeral, Number.text?, Number.textWith?, integerText?_of_short h]

theorem concatText_scalar (operator : String) (v : Scalar) :
    concatText operator v.value = pure v.spelling := by
  cases v with
  | text s => rfl
  | int i h => exact numeral_of_short h
  | bool b => rfl

theorem concatenation_scalar (operator : String) (v w : Scalar) :
    concatenation operator v.value w.value = pure (.text (v.spelling ++ w.spelling)) := by
  have hboth : concatenation operator v.value w.value = (do
      let a ← concatText operator v.value
      let b ← concatText operator w.value
      pure (.text (a ++ b))) := by
    cases v <;> cases w <;> rfl
  rw [hboth, concatText_scalar, concatText_scalar]
  rfl

theorem displayText_scalar (hv : ∀ text, v ≠ .text text) :
    displayText v.value context s = (.ok v.hostSpelling, s) := by
  cases v with
  | text s => exact absurd rfl (hv s)
  | int i h =>
    have hdisplay : (Host.number (.int i)).display? = some (String.ofList (integerChars i)) := by
      simp [Host.display?, Host.written?, Host.writtenChars?, Number.text?, Number.textWith?,
        integerText?_of_short h]
    have hhost : toHost (.number (.int i)) context s = (.ok (.number (.int i)), s) := rfl
    rw [Scalar.value, displayText, run_bind hhost]
    simp only [hdisplay]
    rfl
  | bool b => cases b <;> rfl

/-! ## One scalar -/

theorem Has.tilde (hleft : Has context s left v.value) (hright : Has context s right w.value) :
    Has context s (.binary "~" left right) (.text (v.spelling ++ w.spelling)) := by
  have htilde : applyBinary "~" v.value w.value = concatenation "~" v.value w.value := by
    cases v <;> cases w <;> rfl
  rw [Has, hleft.evaluate_binary hright (by decide) (by decide), htilde, concatenation_scalar]
  rfl

/-- An addition of which at least one side is a text. -/
theorem Has.plus (hleft : Has context s left v.value) (hright : Has context s right w.value)
    (htext : v = .text mark ∨ w = .text mark) :
    Has context s (.binary "+" left right) (.text (v.spelling ++ w.spelling)) := by
  have hplus : applyBinary "+" v.value w.value = concatenation "+" v.value w.value := by
    rcases htext with rfl | rfl
    · cases w <;> rfl
    · cases v <;> rfl
  rw [Has, hleft.evaluate_binary hright (by decide) (by decide), hplus, concatenation_scalar]
  rfl

theorem Has.string (ho : Has context s o v.value) (hnone : context.filters.get? "string" = none) :
    Has context s (.filter o (.name "string")) (.text v.spelling) := by
  rw [Has, ho.evaluate_filter hnone]
  show toText v.value context s = _
  cases v with
  | text s => rfl
  | int i h => exact run_bind (displayText_scalar (v := .int i h) fun _ => Scalar.noConfusion) _
  | bool b => rfl

theorem Has.rendered (ho : Has context s o v.value) (hv : ¬v.IsBool) :
    evaluateBlock [o] context s = (.ok v.spelling, s) := by
  have hcontribution : contribution o v.value context s = (.ok (some v.spelling), s) := by
    cases v with
    | text s => rfl
    | int i h =>
      show (numeral (.int i) >>= fun text => pure (some text)) context s = _
      rw [numeral_of_short h]
      rfl
    | bool b => exact absurd ⟨b, rfl⟩ hv
  rw [evaluateBlock_cons ho hcontribution evaluateBlock_nil]
  show (Except.ok (v.spelling ++ ""), s) = _
  rw [String.append_empty]

/-! ## Many scalars -/

theorem joinText?_scalar (v : Scalar) :
    joinText? v.value context s = (.ok (some v.hostSpelling), s) := by
  cases v with
  | text s => rfl
  | int i h => exact run_bind (displayText_scalar (v := .int i h) fun _ => Scalar.noConfusion) _
  | bool b => exact run_bind (displayText_scalar (v := .bool b) nofun) _

/-- Joined texts are those that the host writes. -/
theorem join_scalars (separator : String) (vs : List Scalar) :
    join (vs.map Scalar.value) (.text separator) context s =
      (.ok (.text (separator.intercalate (vs.map Scalar.hostSpelling))), s) := by
  have hall : (vs.map fun v => some v.hostSpelling).mapM id = some (vs.map Scalar.hostSpelling) := by
    induction vs with
    | nil => rfl
    | cons v vs ih => simp [ih]
  have hparts : mapAll joinText? (vs.map Scalar.value) context s =
      (.ok (vs.map fun v => some v.hostSpelling), s) := by
    refine run_mapAll ?_
    rw [List.forall₂_map_left_iff, List.forall₂_map_right_iff, List.forall₂_same]
    exact fun v _ => joinText?_scalar v
  refine (run_bind hparts _).trans ?_
  rw [hall]
  rfl

theorem Has.join {nodes : List Node} {vs : List Scalar}
    (h : Forall₂ (fun node v => Has context s node (Scalar.value v)) nodes vs)
    (hnone : context.filters.get? "join" = none) :
    Has context s (.filter (.array nodes) (.name "join"))
      (.text ("".intercalate (vs.map Scalar.hostSpelling))) := by
  have hitems : Has context s (.array nodes) (.array (vs.map Scalar.value)) :=
    .array (List.forall₂_map_right_iff.mpr h)
  rw [Has, hitems.evaluate_filter hnone]
  exact join_scalars "" vs

theorem Has.joinBy {nodes : List Node} {vs : List Scalar}
    (h : Forall₂ (fun node v => Has context s node (Scalar.value v)) nodes vs)
    (hseparator : Has context s separator (.text mark))
    (hnone : context.filters.get? "join" = none) :
    Has context s (.filter (.array nodes) (.call (.name "join") [separator]))
      (.text (mark.intercalate (vs.map Scalar.hostSpelling))) := by
  have hitems : Has context s (.array nodes) (.array (vs.map Scalar.value)) :=
    .array (List.forall₂_map_right_iff.mpr h)
  have hlast : ∀ value ∈ [Value.text mark].getLast?, value.isBundle = false := by
    rintro value ⟨⟩
    rfl
  rw [Has, evaluate_filterCall hitems (.cons hseparator .nil) hlast hnone]
  exact join_scalars mark vs

/-- Operands put together by `~`, with a separator between them. -/
def tildes (separator first : Node) (others : List Node) : Node :=
  others.foldl (fun left node => .binary "~" (.binary "~" left separator) node) first

/-- From a text on, the texts of the operands are joined. -/
theorem Has.tildes_text {first : Node} {text : String} {others : List Node} {vs : List Scalar}
    (hfirst : Has context s first (.text text))
    (hothers : Forall₂ (fun node v => Has context s node (Scalar.value v)) others vs)
    (hseparator : Has context s separator (.text mark)) :
    Has context s (tildes separator first others)
      (.text (mark.intercalate (text :: vs.map Scalar.spelling))) := by
  induction hothers generalizing first text with
  | nil => rwa [List.map_nil, String.intercalate_singleton]
  | @cons node w _ _ hnode _ ih =>
    have hleft : Has context s (.binary "~" first separator) (.text (text ++ mark)) :=
      Has.tilde (v := .text text) (w := .text mark) hfirst hseparator
    have hboth : Has context s (.binary "~" (.binary "~" first separator) node)
        (.text (text ++ mark ++ w.spelling)) :=
      Has.tilde (v := .text (text ++ mark)) hleft hnode
    exact ih hboth

/-- The texts of several operands are joined; one operand stays as it is. -/
theorem Has.tildes {first : Node} {others : List Node} {vs : List Scalar}
    (hfirst : Has context s first v.value)
    (hothers : Forall₂ (fun node v => Has context s node (Scalar.value v)) others vs)
    (hseparator : Has context s separator (.text mark)) :
    ∃ w : Scalar, Has context s (tildes separator first others) w.value ∧
      w.spelling = mark.intercalate (v.spelling :: vs.map Scalar.spelling) ∧
      (others ≠ [] → w = .text w.spelling) := by
  cases hothers with
  | nil => exact ⟨v, hfirst, String.intercalate_singleton.symm, nofun⟩
  | @cons node w _ _ hnode hrest =>
    have hleft : Has context s (.binary "~" first separator) (.text (v.spelling ++ mark)) :=
      hfirst.tilde (w := .text mark) hseparator
    have hboth : Has context s (.binary "~" (.binary "~" first separator) node)
        (.text (v.spelling ++ mark ++ w.spelling)) :=
      Has.tilde (v := .text (v.spelling ++ mark)) hleft hnode
    exact ⟨.text _, hboth.tildes_text hrest hseparator, rfl, fun _ => rfl⟩

/-! ## Agreement -/

/-- The ways in which a scalar becomes a text. A filter is the built-in one where the host gives none
of its name. -/
structure BecomesText (context : Context) (s : State) (o : Node) (v : Scalar) : Prop where
  behindPlus : Has context s (.binary "+" (.text "") o) (.text v.spelling)
  beforePlus : Has context s (.binary "+" o (.text "")) (.text v.spelling)
  tilde : Has context s (.binary "~" (.text "") o) (.text v.spelling)
  string : context.filters.get? "string" = none →
    Has context s (.filter o (.name "string")) (.text v.spelling)
  join : context.filters.get? "join" = none →
    Has context s (.filter (.array [o]) (.name "join")) (.text v.hostSpelling)
  rendered : ¬v.IsBool → evaluateBlock [o] context s = (.ok v.spelling, s)
  /-- A joined text differs from the others just for a truth value. -/
  agree : v.hostSpelling = v.spelling ↔ ¬v.IsBool

theorem Has.becomesText (ho : Has context s o v.value) : BecomesText context s o v where
  behindPlus := by
    have h := Has.plus (v := .text "") (.text "") ho (.inl rfl)
    rwa [Scalar.spelling, String.empty_append] at h
  beforePlus := by
    have h := Has.plus (w := .text "") ho (.text "") (.inr rfl)
    rwa [Scalar.spelling.eq_def (.text ""), String.append_empty] at h
  tilde := by
    have h := Has.tilde (v := .text "") (.text "") ho
    rwa [Scalar.spelling, String.empty_append] at h
  string := ho.string
  join hnone := by
    have hone : Forall₂ (fun node v => Has context s node (Scalar.value v)) [o] [v] :=
      .cons ho .nil
    have h := Has.join hone hnone
    rwa [List.map_singleton, String.intercalate_singleton] at h
  rendered := ho.rendered
  agree := v.hostSpelling_eq_iff

/-- What scalars come to that are put together with a separator between them, by the filter `join`
and by the operator `~`. -/
structure PutTogether (context : Context) (s : State) (separator first : Node) (others : List Node)
    (mark : String) (vs : List Scalar) : Prop where
  filter : context.filters.get? "join" = none →
    Has context s (.filter (.array (first :: others)) (.call (.name "join") [separator]))
      (.text (mark.intercalate (vs.map Scalar.hostSpelling)))
  /-- The text of one operand that stays as it is, or of several that are joined. -/
  operator : ∃ w : Scalar, Has context s (tildes separator first others) w.value ∧
    w.spelling = mark.intercalate (vs.map Scalar.spelling) ∧ (others ≠ [] → w = .text w.spelling)
  /-- They differ just if there is a truth value. -/
  agree : mark.intercalate (vs.map Scalar.hostSpelling) =
    mark.intercalate (vs.map Scalar.spelling) ↔ ∀ v ∈ vs, ¬v.IsBool

/-- Scalars become the same texts in all ways, one by one and put together, but for truth values in
joined texts. -/
theorem scalars_becomeText {first : Node} {others : List Node} {vs : List Scalar}
    (hfirst : Has context s first v.value)
    (hothers : Forall₂ (fun node v => Has context s node (Scalar.value v)) others vs)
    (hseparator : Has context s separator (.text mark)) :
    Forall₂ (BecomesText context s) (first :: others) (v :: vs) ∧
      PutTogether context s separator first others mark (v :: vs) :=
  ⟨.cons hfirst.becomesText (hothers.imp fun _ _ h => Has.becomesText h),
    { filter := Has.joinBy (.cons hfirst hothers) hseparator
      operator := hfirst.tildes hothers hseparator
      agree := Scalar.intercalate_hostSpelling_iff mark (v :: vs) }⟩

theorem scalars_becomeText_with_truth :
    let context := Context.ofLibrary Host.stock [] false
    let items := Node.array [.text "x", .number (.int 7), .bool true]
    Has context .initial (.filter items (.call (.name "join") [.text "-"])) (.text "x-7-True") ∧
      ∃ w : Scalar, w.spelling = "x-7-true" ∧
        Has context .initial (tildes (.text "-") (.text "x") [.number (.int 7), .bool true])
          w.value := by
  intro context items
  have hnumber : (decimalDigits (7 : Int).natAbs).length ≤ digitLimit := by decide
  have hbool : Has context .initial (.bool true) (Scalar.bool true).value := by
    rw [Has, evaluate]
    rfl
  obtain ⟨-, htogether⟩ := scalars_becomeText (v := .text "x") (s := .initial) (.text "x")
    (.cons (b := .int 7 hnumber) (.number 7) (.cons (b := .bool true) hbool .nil)) (.text "-")
  obtain ⟨w, hw, hspelling, -⟩ := htogether.operator
  exact ⟨htogether.filter rfl, w, hspelling, hw⟩

end Eval

end TextTemplate
