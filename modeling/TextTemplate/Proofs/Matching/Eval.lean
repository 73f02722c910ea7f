import TextTemplate.Eval.Convert
import TextTemplate.Proofs.Matching.Host
import TextTemplate.Proofs.Matching.Memory

/-!
# Computations that go alike in two runs

Two computations go alike if, from memories that are alike, they end in memories that are alike,
with the same fault or with answers that belong together.
-/

namespace TextTemplate

open List (Forall₂)

/-- The host functions at hand treat alike what is alike. -/
structure Context.Uniform (w : Matching) (context : Context) : Prop where
  library : ∀ (name : String) {args args' : List Host} {keywords keywords' : Fields Host},
    Forall₂ (Host.Alike w) args args' → Forall₂ (Keyed (Host.Alike w)) keywords keywords' →
      HostAction.Alike w (context.library name args keywords) (context.library name args' keywords')
  filters : Forall₂ (Keyed (HostFunction.Alike w)) context.filters context.filters

namespace Eval

variable {α β γ δ : Type} {w : Matching} {R : α → β → Prop} {S : γ → δ → Prop}

/-- The same fault, or answers that are related. -/
inductive Agree (R : α → β → Prop) : Except Fault α → Except Fault β → Prop
  | ok {a : α} {b : β} (h : R a b) : Agree R (.ok a) (.ok b)
  | error (fault : Fault) : Agree R (.error fault) (.error fault)

def RunsAlike (w : Matching) (R : α → β → Prop) (x : Eval α) (y : Eval β) : Prop :=
  ∀ context, Context.Uniform w context → ∀ s s' : State, Memory.Alike w s.memory s'.memory →
    Agree R (x context s).1 (y context s').1 ∧
      Memory.Alike w (x context s).2.memory (y context s').2.memory

namespace RunsAlike

protected theorem pure {a : α} {b : β} (h : R a b) :
    RunsAlike w R (Pure.pure a) (Pure.pure b) := fun _ _ _ _ hmemory => ⟨.ok h, hmemory⟩

protected theorem fail (fault : Fault) :
    RunsAlike w R (Eval.fail fault : Eval α) (Eval.fail fault : Eval β) :=
  fun _ _ _ _ hmemory => ⟨.error fault, hmemory⟩

protected theorem bind {x : Eval α} {y : Eval β} {f : α → Eval γ} {g : β → Eval δ}
    (hx : RunsAlike w R x y) (hf : ∀ a b, R a b → RunsAlike w S (f a) (g b)) :
    RunsAlike w S (x >>= f) (y >>= g) := by
  intro context hcontext s s' hmemory
  obtain ⟨hagree, hafter⟩ := hx context hcontext s s' hmemory
  show Agree S (Eval.bind x f context s).1 (Eval.bind y g context s').1 ∧
    Memory.Alike w (Eval.bind x f context s).2.memory (Eval.bind y g context s').2.memory
  simp only [Eval.bind]
  generalize x context s = result at hagree hafter
  generalize y context s' = result' at hagree hafter
  obtain ⟨outcome, after⟩ := result
  obtain ⟨outcome', after'⟩ := result'
  cases hagree with
  | ok h => exact hf _ _ h context hcontext after after' hafter
  | error fault => exact ⟨.error fault, hafter⟩

theorem ofMemory {f : Memory → α} {g : Memory → β}
    (h : ∀ m m', Memory.Alike w m m' → R (f m) (g m')) :
    RunsAlike w R (Eval.ofMemory f) (Eval.ofMemory g) :=
  fun _ _ _ _ hmemory => ⟨.ok (h _ _ hmemory), hmemory⟩

theorem withMemory {f : Memory → α × Memory} {g : Memory → β × Memory}
    (h : ∀ m m', Memory.Alike w m m' → R (f m).1 (g m').1 ∧ Memory.Alike w (f m).2 (g m').2) :
    RunsAlike w R (Eval.withMemory f) (Eval.withMemory g) :=
  fun _ _ _ _ hmemory => ⟨.ok (h _ _ hmemory).1, (h _ _ hmemory).2⟩

/-- Both computations have the same context. -/
theorem ofContext {f g : Context → Eval α} {S : α → α → Prop}
    (h : ∀ context, Context.Uniform w context → RunsAlike w S (f context) (g context)) :
    RunsAlike w S (Eval.context >>= f) (Eval.context >>= g) :=
  fun context hcontext s s' hmemory => h context hcontext context hcontext s s' hmemory

protected theorem ite {c : Prop} [Decidable c] {x x' : Eval α} {y y' : Eval β}
    (htrue : c → RunsAlike w R x y) (hfalse : ¬c → RunsAlike w R x' y') :
    RunsAlike w R (if c then x else x') (if c then y else y') := by
  split
  case isTrue h => exact htrue h
  case isFalse h => exact hfalse h

protected theorem mapAll {f : α → Eval γ} {g : β → Eval δ} {items : List α} {items' : List β}
    (h : Forall₂ R items items') (hf : ∀ a b, R a b → RunsAlike w S (f a) (g b)) :
    RunsAlike w (Forall₂ S) (Eval.mapAll f items) (Eval.mapAll g items') := by
  induction h with
  | nil => exact .pure .nil
  | cons hitem _ ih =>
    exact (hf _ _ hitem).bind fun _ _ hfirst => ih.bind fun _ _ hrest => .pure (.cons hfirst hrest)

end RunsAlike

/-! ## Memory -/

theorem fieldsOf_alike {a b : Address} (h : w.objects a b) :
    RunsAlike w (Forall₂ (Keyed (Value.Alike w))) (fieldsOf a) (fieldsOf b) :=
  .ofMemory fun _ _ hmemory => hmemory.fields h

theorem newObject_alike (kind : ObjectKind) {fields fields' : Fields Value}
    (h : Forall₂ (Keyed (Value.Alike w)) fields fields') :
    RunsAlike w (Value.Alike w) (newObject kind fields) (newObject kind fields') :=
  (RunsAlike.withMemory fun _ _ hmemory => hmemory.allocate h).bind fun _ _ haddress =>
    .pure (.object kind haddress)

theorem newFunction_alike {f g : Function} (h : Function.Alike w f g) :
    RunsAlike w (Value.Alike w) (newFunction f) (newFunction g) :=
  (RunsAlike.withMemory fun _ _ hmemory => hmemory.freshMark).bind fun _ _ hmark =>
    .pure (.function hmark h)

theorem ofNumber_alike {m n : Number} (h : Number.Alike w m n) :
    RunsAlike w (Value.Alike w) (ofNumber m) (ofNumber n) := by
  cases h with
  | int i => exact .pure (.number (.int i))
  | float x => exact .pure (.number (.float x))
  | @nan i j h =>
    have hzero : i = 0 ↔ j = 0 := w.marks_iff h w.marks_zero
    unfold ofNumber
    by_cases hi : i = 0
    · obtain rfl := hi
      obtain rfl := hzero.mp rfl
      exact (RunsAlike.withMemory fun _ _ hmemory => hmemory.freshMark).bind fun _ _ hmark =>
        .pure (.number (.nan hmark))
    · have hj : j ≠ 0 := fun hj => hi (hzero.mpr hj)
      split
      · rename_i heq
        cases heq
        exact absurd rfl hi
      · split
        · rename_i heq
          cases heq
          exact absurd rfl hj
        · exact .pure (.number (.nan h))

/-- Pairs with the same text as label and with values that are related. -/
inductive Named (R : α → β → Prop) : Label × α → Label × β → Prop
  | mk (name : String) {a : α} {b : β} (h : R a b) : Named R (.text name, a) (.text name, b)

theorem isText_of_named {pairs : List (Label × α)} {pairs' : List (Label × β)}
    (h : Forall₂ (Named R) pairs pairs') :
    pairs.all (·.1.isText) = true ∧ pairs'.all (·.1.isText) = true := by
  induction h with
  | nil => exact ⟨rfl, rfl⟩
  | cons hpair _ ih =>
    obtain ⟨name, _⟩ := hpair
    exact ih

theorem named_alike {pairs : List (Label × α)} {pairs' : List (Label × β)}
    (h : Forall₂ (Named R) pairs pairs') :
    Forall₂ (Keyed R) (Table.named pairs) (Table.named pairs') := by
  induction h with
  | nil => exact .nil
  | cons hpair _ ih =>
    obtain ⟨name, hvalue⟩ := hpair
    exact .cons (.mk name hvalue) ih

theorem newLabelled_alike (kind : ObjectKind) {pairs pairs' : List (Label × Value)}
    (h : Forall₂ (Named (Value.Alike w)) pairs pairs') :
    RunsAlike w (Value.Alike w) (newLabelled kind pairs) (newLabelled kind pairs') := by
  obtain ⟨htext, htext'⟩ := isText_of_named h
  simp only [newLabelled, htext, htext', ↓reduceIte]
  exact newObject_alike kind (Fields.ofPairs_rel (named_alike h))

theorem snapshot_alike {value value' : Value} (h : Value.Alike w value value') :
    RunsAlike w (Snapshot.Alike w) (snapshot value) (snapshot value') := by
  intro context _ s s' hmemory
  show Agree _ (Eval.bind _ _ context s).1 (Eval.bind _ _ context s').1 ∧
    Memory.Alike w (Eval.bind _ _ context s).2.memory (Eval.bind _ _ context s').2.memory
  simp only [Eval.bind, Eval.ofMemory, ← hmemory.ends_eq h]
  split
  case isTrue hends => exact ⟨.ok (hmemory.snapshot h hends), hmemory⟩
  case isFalse => exact ⟨.error _, hmemory⟩

theorem toHost_alike {value value' : Value} (h : Value.Alike w value value') :
    RunsAlike w (Host.Alike w) (toHost value) (toHost value') :=
  (snapshot_alike h).bind fun held _ hheld => .pure (Snapshot.toHost_alike held _ hheld)

/-! ## Conversion -/

theorem takeApart_alike {fields fields' : List (String × Host)}
    (h : Forall₂ (Keyed (Host.Alike w)) fields fields') :
    RunsAlike w Eq (takeApart fields) (takeApart fields') := by
  unfold takeApart
  rw [Host.fieldsUnfold_eq fields _ h]
  split
  · exact .pure rfl
  · exact .fail _

mutual

theorem convert_alike : ∀ (inRecord : Bool) (host host' : Host), Host.Alike w host host' →
    RunsAlike w (Value.Alike w) (convert inRecord host) (convert inRecord host')
  | _, .null, _, h => by cases h; exact .pure .null
  | _, .bool _, _, h => by cases h; exact .pure (.bool _)
  | _, .number _, _, h => by
    cases h with
    | number h => exact ofNumber_alike h
  | _, .text _, _, h => by cases h; exact .pure (.text _)
  | inRecord, .list items, _, h => by
    cases h with
    | list h => exact (convertAll_alike inRecord items _ h).bind fun _ _ h => .pure (.array h)
  | inRecord, .tuple items, _, h => by
    cases h with
    | tuple h => exact (convertAll_alike inRecord items _ h).bind fun _ _ h => .pure (.array h)
  | inRecord, .map entries, _, h => by
    cases h with
    | map h =>
      exact (convertEntries_alike inRecord entries _ h).bind fun _ _ h =>
        newObject_alike .plain (Fields.ofPairs_rel h)
  | _, .model entries, _, h => by
    cases h with
    | model h =>
      exact (convertEntries_alike false entries _ h).bind fun _ _ h =>
        newObject_alike .plain (Fields.ofPairs_rel h)
  | _, .record _ fields, _, h => by
    cases h with
    | record _ h =>
      exact (takeApart_alike h).bind fun _ _ _ =>
        (convertFields_alike true fields _ h).bind fun _ _ h =>
          newObject_alike .plain (Fields.ofPairs_rel h)
  | _, .function _, _, h => by
    cases h with
    | function h => exact newFunction_alike (.host h)
  | _, .foreign _, _, h => by cases h; exact .fail _
  | inRecord, .ready _ form, _, h => by
    cases h with
    | ready h hform =>
      cases inRecord with
      | true =>
        have hconvert := convert_alike true form _ hform
        exact hconvert
      | false => exact .pure h

theorem convertAll_alike : ∀ (inRecord : Bool) (items items' : List Host),
    Forall₂ (Host.Alike w) items items' →
      RunsAlike w (Forall₂ (Value.Alike w)) (convertAll inRecord items) (convertAll inRecord items')
  | _, [], _, h => by cases h; exact .pure .nil
  | inRecord, item :: rest, _, h => by
    cases h with
    | cons hitem hrest =>
      exact (convert_alike inRecord item _ hitem).bind fun _ _ hvalue =>
        (convertAll_alike inRecord rest _ hrest).bind fun _ _ hvalues =>
          .pure (.cons hvalue hvalues)

theorem convertEntries_alike : ∀ (inRecord : Bool) (entries entries' : List (Host × Host)),
    Forall₂ (Paired (Host.Alike w) (Host.Alike w)) entries entries' →
      RunsAlike w (Forall₂ (Keyed (Value.Alike w))) (convertEntries inRecord entries)
        (convertEntries inRecord entries')
  | _, [], _, h => by cases h; exact .pure .nil
  | inRecord, (key, item) :: rest, _, h => by
    cases h with
    | cons hpair hrest =>
      cases hpair with
      | mk hkey hitem =>
        have hitem := convert_alike inRecord item _ hitem
        have hrest := convertEntries_alike inRecord rest _ hrest
        have hwritten := hkey.written?
        have htype := hkey.typeName
        cases hkey
        case text name =>
          exact hitem.bind fun _ _ hvalue => hrest.bind fun _ _ hfields =>
            .pure (.cons (.mk name hvalue) hfields)
        all_goals
          simp only [convertEntries, hwritten, htype]
          split <;> exact .fail _

theorem convertFields_alike : ∀ (inRecord : Bool) (fields fields' : List (String × Host)),
    Forall₂ (Keyed (Host.Alike w)) fields fields' →
      RunsAlike w (Forall₂ (Keyed (Value.Alike w))) (convertFields inRecord fields)
        (convertFields inRecord fields')
  | _, [], _, h => by cases h; exact .pure .nil
  | inRecord, (key, item) :: rest, _, h => by
    cases h with
    | cons hpair hrest =>
      cases hpair with
      | mk _ hitem =>
        exact (convert_alike inRecord item _ hitem).bind fun _ _ hvalue =>
          (convertFields_alike inRecord rest _ hrest).bind fun _ _ hfields =>
            .pure (.cons (.mk key hvalue) hfields)

end

theorem fromHost_alike {host host' : Host} (h : Host.Alike w host host') :
    RunsAlike w (Value.Alike w) (fromHost host) (fromHost host') := convert_alike false host _ h

end Eval

end TextTemplate
