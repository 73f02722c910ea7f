import Mathlib
import TextTemplate.Eval.Basic
import TextTemplate.Sequence
import TextTemplate.Value.Snapshot

/-!
# Values that stand for one another in two runs

Two runs of a template may give different addresses to what is the same object, and different marks
to what is the same function. A matching says which of them belong together, and values are alike
when they differ in nothing else. Labels that are no texts, and tables, are alike to nothing: they
never come from a template.
-/

namespace TextTemplate

/-- Which addresses and which marks of two runs belong together. -/
structure Matching where
  objects : Address → Address → Prop
  marks : Nat → Nat → Prop
  objects_iff : ∀ {a b a' b' : Address}, objects a b → objects a' b' → (a = a' ↔ b = b')
  marks_iff : ∀ {i j i' j' : Nat}, marks i j → marks i' j' → (i = i' ↔ j = j')
  /-- What has not been marked yet belongs together. -/
  marks_zero : marks 0 0

/-! ## Numbers -/

namespace Number

inductive Alike (w : Matching) : Number → Number → Prop
  | int (i : Int) : Alike w (.int i) (.int i)
  | float (x : Float) : Alike w (.float x) (.float x)
  | nan {i j : Nat} (h : w.marks i j) : Alike w (.nan i) (.nan j)

/-- Results of arithmetic that are alike. -/
inductive Alike.Result (w : Matching) : Except Trouble Number → Except Trouble Number → Prop
  | ok {m n : Number} (h : Alike w m n) : Alike.Result w (.ok m) (.ok n)
  | error (trouble : Trouble) : Alike.Result w (.error trouble) (.error trouble)

variable {w : Matching} {a b a' b' : Number}

theorem Alike.ofFloat (x : Float) : Alike w (Number.ofFloat x) (Number.ofFloat x) := by
  unfold Number.ofFloat
  split
  · exact .nan w.marks_zero
  · exact .float x

namespace Alike

theorem isZero (h : Alike w a b) : a.isZero = b.isZero := by
  cases h <;> rfl

theorem toFloat? (h : Alike w a b) : a.toFloat? = b.toFloat? := by
  cases h <;> rfl

theorem neg (h : Alike w a b) : Alike w a.neg b.neg := by
  cases h with
  | int i => exact .int _
  | float x => exact .float _
  | nan h => exact .nan w.marks_zero

theorem abs (h : Alike w a b) : Alike w a.abs b.abs := by
  cases h with
  | int i => exact .int _
  | float x => exact .float _
  | nan h => exact .nan w.marks_zero

theorem compare? (h : Alike w a b) (h' : Alike w a' b') : a.compare? a' = b.compare? b' := by
  cases h <;> cases h' <;> rfl

theorem sameValue (h : Alike w a b) (h' : Alike w a' b') : a.sameValue a' = b.sameValue b' := by
  simp only [Number.sameValue, h.compare? h']

theorem sameNumber (h : Alike w a b) (h' : Alike w a' b') :
    Label.sameNumber a a' = Label.sameNumber b b' := by
  have hsame := h.sameValue h'
  cases h <;> cases h' <;> try exact hsame
  case nan.nan i j h i' j' h' =>
    have hiff := w.marks_iff h h'
    exact Bool.eq_iff_iff.mpr (by simpa [Label.sameNumber] using hiff)

theorem textWith? (h : Alike w a b) (words : Words) : a.textWith? words = b.textWith? words := by
  cases h <;> rfl

theorem combineFloats (h : Alike w a b) (h' : Alike w a' b') (rounded : Float → Float → Float) :
    Result w
      (match a.toFloat?, a'.toFloat? with
        | some x, some y => .ok (Number.ofFloat (rounded x y))
        | _, _ => .error .tooLarge)
      (match b.toFloat?, b'.toFloat? with
        | some x, some y => .ok (Number.ofFloat (rounded x y))
        | _, _ => .error .tooLarge) := by
  rw [h.toFloat?, h'.toFloat?]
  split
  · exact .ok (.ofFloat _)
  · exact .error _

theorem combine (h : Alike w a b) (h' : Alike w a' b') (exact_ : Int → Int → Int)
    (rounded : Float → Float → Float) :
    Result w (Number.combine exact_ rounded a a') (Number.combine exact_ rounded b b') := by
  have hfloats := h.combineFloats h' rounded
  cases h <;> cases h' <;> try exact hfloats
  case int.int i i' => exact .ok (.int _)

theorem div (h : Alike w a b) (h' : Alike w a' b') : Result w (a.div a') (b.div b') := by
  have hrounded := h.combine h' (fun a _ => a) (· / ·)
  unfold Number.div
  rw [h'.isZero]
  split
  · exact .error _
  · cases h <;> cases h' <;> try exact hrounded
    case int.int i i' =>
      dsimp only
      split
      · exact .ok (.ofFloat _)
      · exact .error _

theorem floorDiv (h : Alike w a b) (h' : Alike w a' b') :
    Result w (a.floorDiv a') (b.floorDiv b') := by
  unfold Number.floorDiv
  rw [h'.isZero]
  split
  · exact .error _
  · exact h.combine h' _ _

theorem mod (h : Alike w a b) (h' : Alike w a' b') : Result w (a.mod a') (b.mod b') := by
  unfold Number.mod
  rw [h'.isZero]
  split
  · exact .error _
  · exact h.combine h' _ _

end Alike

end Number

/-! ## Lists and fields -/

/-- Pairs with the same key and with values that are related. -/
inductive Keyed {κ α β : Type} (R : α → β → Prop) : κ × α → κ × β → Prop
  | mk (key : κ) {a : α} {b : β} (h : R a b) : Keyed R (key, a) (key, b)

/-- Pairs that are related part by part. -/
inductive Paired {α β γ δ : Type} (R : α → β → Prop) (S : γ → δ → Prop) : α × γ → β × δ → Prop
  | mk {a : α} {b : β} {c : γ} {d : δ} (hfirst : R a b) (hsecond : S c d) :
    Paired R S (a, c) (b, d)

theorem isSome_eq_of_rel {α β : Type} {R : α → β → Prop} {x : Option α} {y : Option β}
    (h : Option.Rel R x y) : x.isSome = y.isSome := by
  cases h <;> rfl

theorem rel_cases {α β : Type} {R : α → β → Prop} {x : Option α} {y : Option β}
    (h : Option.Rel R x y) : x = none ∧ y = none ∨ ∃ a b, x = some a ∧ y = some b ∧ R a b := by
  cases h with
  | none => exact .inl ⟨rfl, rfl⟩
  | some h => exact .inr ⟨_, _, rfl, rfl, h⟩

open List (Forall₂)

section Fields

variable {α β : Type} {R : α → β → Prop} {fields : Fields α} {fields' : Fields β}

namespace Fields

theorem get?_rel (h : Forall₂ (Keyed R) fields fields') (key : String) :
    Option.Rel R (fields.get? key) (fields'.get? key) := by
  induction h with
  | nil => exact .none
  | cons hpair _ ih =>
    obtain ⟨k, hvalue⟩ := hpair
    simp only [get?] at ih ⊢
    by_cases hk : key = k
    · simpa [hk] using Option.Rel.some hvalue
    · simpa [List.lookup, beq_eq_false_iff_ne.mpr hk] using ih

theorem has_eq (h : Forall₂ (Keyed R) fields fields') (key : String) :
    fields.has key = fields'.has key := by
  exact isSome_eq_of_rel (get?_rel h key)

theorem put_rel (h : Forall₂ (Keyed R) fields fields') (key : String) {a : α} {b : β}
    (hvalue : R a b) : Forall₂ (Keyed R) (fields.put key a) (fields'.put key b) := by
  induction h with
  | nil => exact .cons (.mk key hvalue) .nil
  | cons hpair hrest ih =>
    obtain ⟨k, hold⟩ := hpair
    simp only [put]
    split
    · exact .cons (.mk k hvalue) hrest
    · exact .cons (.mk k hold) ih

theorem putAll_rel (h : Forall₂ (Keyed R) fields fields') {added : Fields α} {added' : Fields β}
    (hadded : Forall₂ (Keyed R) added added') :
    Forall₂ (Keyed R) (putAll fields added) (putAll fields' added') := by
  induction hadded generalizing fields fields' with
  | nil => exact h
  | cons hpair _ ih =>
    obtain ⟨key, hvalue⟩ := hpair
    exact ih (put_rel h key hvalue)

theorem ofPairs_rel (h : Forall₂ (Keyed R) fields fields') :
    Forall₂ (Keyed R) (ofPairs fields) (ofPairs fields') := putAll_rel .nil h

theorem keys_eq (h : Forall₂ (Keyed R) fields fields') : fields.keys = fields'.keys := by
  induction h with
  | nil => rfl
  | cons hpair _ ih =>
    obtain ⟨key, _⟩ := hpair
    simp only [keys, List.map_cons] at ih ⊢
    rw [ih]

theorem values_rel (h : Forall₂ (Keyed R) fields fields') :
    Forall₂ R fields.values fields'.values := by
  induction h with
  | nil => exact .nil
  | cons hpair _ ih =>
    obtain ⟨key, hvalue⟩ := hpair
    exact .cons hvalue ih

end Fields

end Fields

section Lists

variable {α β : Type} {R : α → β → Prop} {items : List α} {items' : List β}

theorem forall₂_isEmpty (h : Forall₂ R items items') : items.isEmpty = items'.isEmpty := by
  cases h <;> rfl

theorem forall₂_getElem? (h : Forall₂ R items items') (i : Nat) :
    Option.Rel R items[i]? items'[i]? := by
  induction h generalizing i with
  | nil => exact .none
  | cons hitem _ ih =>
    cases i with
    | zero => exact .some hitem
    | succ i => exact ih i

theorem forall₂_getLast? (h : Forall₂ R items items') :
    Option.Rel R items.getLast? items'.getLast? := by
  rw [List.getLast?_eq_getElem?, List.getLast?_eq_getElem?, h.length_eq]
  exact forall₂_getElem? h _

theorem forall₂_dropLast (h : Forall₂ R items items') :
    Forall₂ R items.dropLast items'.dropLast := by
  rw [List.dropLast_eq_take, List.dropLast_eq_take, h.length_eq]
  exact List.forall₂_take _ h

theorem forall₂_every (h : Forall₂ R items items') (step skip : Nat) :
    Forall₂ R (Sequence.everyFrom step skip items) (Sequence.everyFrom step skip items') := by
  induction h generalizing skip with
  | nil => cases skip <;> exact .nil
  | cons hitem _ ih =>
    cases skip with
    | zero => exact .cons hitem (ih _)
    | succ skip => exact ih skip

theorem forall₂_slice (h : Forall₂ R items items') (start stop : Option Int) (step : Int) :
    Forall₂ R (Sequence.slice items start stop step) (Sequence.slice items' start stop step) := by
  unfold Sequence.slice Sequence.sliceForward Sequence.sliceBackward Sequence.every
  simp only [h.length_eq]
  split
  · exact forall₂_every (List.forall₂_drop _ (List.forall₂_take _ h)) _ _
  · refine forall₂_every ?_ _ _
    exact List.rel_reverse (List.forall₂_drop _ (List.forall₂_take _ h))

theorem at?_rel (h : Forall₂ R items items') (index : Int) :
    Option.Rel R (Sequence.at? items index) (Sequence.at? items' index) := by
  unfold Sequence.at?
  simp only [h.length_eq]
  generalize (if index < 0 then index + ↑items'.length else index) = position
  split
  · exact .none
  · exact forall₂_getElem? h _

end Lists

/-! ## Values -/

mutual

inductive Function.Alike (w : Matching) : Function → Function → Prop
  | ofText (method : TextMethod) (receiver : String) :
    Function.Alike w (.ofText method receiver) (.ofText method receiver)
  | ofArray (length : Nat) : Function.Alike w (.ofArray length) (.ofArray length)
  | ofObject (method : ObjectMethod) {a b : Address} (h : w.objects a b) :
    Function.Alike w (.ofObject method a) (.ofObject method b)
  | builtin (builtin : Builtin) : Function.Alike w (.builtin builtin) (.builtin builtin)
  | host {f g : HostFunction} (h : HostFunction.Alike w f g) : Function.Alike w (.host f) (.host g)

inductive HostFunction.Alike (w : Matching) : HostFunction → HostFunction → Prop
  | named (name : String) : HostFunction.Alike w (.named name) (.named name)
  | template {f g : Function} (h : Function.Alike w f g) :
    HostFunction.Alike w (.template f) (.template g)

end

inductive Value.Alike (w : Matching) : Value → Value → Prop
  | number {m n : Number} (h : Number.Alike w m n) : Value.Alike w (.number m) (.number n)
  | bool (b : Bool) : Value.Alike w (.bool b) (.bool b)
  | text (s : String) : Value.Alike w (.text s) (.text s)
  | null : Value.Alike w .null .null
  | undefined : Value.Alike w .undefined .undefined
  | array {items items' : List Value} (h : Forall₂ (Value.Alike w) items items') :
    Value.Alike w (.array items) (.array items')
  | object (kind : ObjectKind) {a b : Address} (h : w.objects a b) :
    Value.Alike w (.object kind a) (.object kind b)
  | function {i j : Nat} {f g : Function} (hmark : w.marks i j) (h : Function.Alike w f g) :
    Value.Alike w (.function i f) (.function j g)

inductive Snapshot.Alike (w : Matching) : Snapshot → Snapshot → Prop
  | number {m n : Number} (h : Number.Alike w m n) : Snapshot.Alike w (.number m) (.number n)
  | bool (b : Bool) : Snapshot.Alike w (.bool b) (.bool b)
  | text (s : String) : Snapshot.Alike w (.text s) (.text s)
  | null : Snapshot.Alike w .null .null
  | undefined : Snapshot.Alike w .undefined .undefined
  | array {items items' : List Snapshot} (h : Forall₂ (Snapshot.Alike w) items items') :
    Snapshot.Alike w (.array items) (.array items')
  | object (kind : ObjectKind) {fields fields' : List (String × Snapshot)}
    (h : Forall₂ (Keyed (Snapshot.Alike w)) fields fields') :
    Snapshot.Alike w (.object kind fields) (.object kind fields')
  | function {i j : Nat} {f g : Function} (hmark : w.marks i j) (h : Function.Alike w f g) :
    Snapshot.Alike w (.function i f) (.function j g)

inductive Host.Alike (w : Matching) : Host → Host → Prop
  | null : Host.Alike w .null .null
  | bool (b : Bool) : Host.Alike w (.bool b) (.bool b)
  | number {m n : Number} (h : Number.Alike w m n) : Host.Alike w (.number m) (.number n)
  | text (s : String) : Host.Alike w (.text s) (.text s)
  | list {items items' : List Host} (h : Forall₂ (Host.Alike w) items items') :
    Host.Alike w (.list items) (.list items')
  | tuple {items items' : List Host} (h : Forall₂ (Host.Alike w) items items') :
    Host.Alike w (.tuple items) (.tuple items')
  | map {entries entries' : List (Host × Host)}
    (h : Forall₂ (Paired (Host.Alike w) (Host.Alike w)) entries entries') :
    Host.Alike w (.map entries) (.map entries')
  | record (typeName : String) {fields fields' : List (String × Host)}
    (h : Forall₂ (Keyed (Host.Alike w)) fields fields') :
    Host.Alike w (.record typeName fields) (.record typeName fields')
  | model {entries entries' : List (Host × Host)}
    (h : Forall₂ (Paired (Host.Alike w) (Host.Alike w)) entries entries') :
    Host.Alike w (.model entries) (.model entries')
  | function {f g : HostFunction} (h : HostFunction.Alike w f g) :
    Host.Alike w (.function f) (.function g)
  | foreign (kind : Foreign) : Host.Alike w (.foreign kind) (.foreign kind)
  | ready {value value' : Value} {form form' : Host} (h : Value.Alike w value value')
    (hform : Host.Alike w form form') : Host.Alike w (.ready value form) (.ready value' form')

/-- What a host function does with arguments that are alike. -/
inductive HostAction.Alike (w : Matching) : HostAction → HostAction → Prop
  | answer {a b : Host} (h : Host.Alike w a b) : HostAction.Alike w (.answer a) (.answer b)
  | fail (message : String) : HostAction.Alike w (.fail message) (.fail message)
  | call {f g : HostFunction} {args args' : List Host} {resume resume' : Host → HostAction}
    (hf : HostFunction.Alike w f g) (hargs : Forall₂ (Host.Alike w) args args')
    (h : ∀ a b, Host.Alike w a b → HostAction.Alike w (resume a) (resume' b)) :
    HostAction.Alike w (.call f args resume) (.call g args' resume')

end TextTemplate
