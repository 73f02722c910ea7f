import TextTemplate.Proofs.Eval.Conversion
import TextTemplate.Proofs.Value.Fields
import TextTemplate.Proofs.Variables.Soundness

/-!
# What templates refuse

Whether a template can be given a host value, and what is said against the value if not, depends on
the value alone. Variables are declared one after the other, so the first that is in the way decides
how starting a rendering fails.
-/

namespace TextTemplate

namespace Host

/-- The reason against a key that is no text. -/
def keyRefusal (key : Host) : Fault :=
  match key.written? with
  | some written => .foreignKey key.typeName written
  | none => .numeralTooLong

mutual

/-- The first reason against a value, which may stand within a record. -/
def refusal? (inRecord : Bool) : Host → Option Fault
  | .list items => refusalOfAll? inRecord items
  | .tuple items => refusalOfAll? inRecord items
  | .map entries => refusalOfEntries? inRecord entries
  | .model entries => refusalOfEntries? false entries
  | .record _ fields => if fieldsUnfold fields then refusalOfFields? true fields else some .unfit
  | .foreign kind => some (.foreignValue kind.typeName)
  | .ready _ form => if inRecord then refusal? true form else none
  | _ => none

def refusalOfAll? (inRecord : Bool) : List Host → Option Fault
  | [] => none
  | item :: rest => (refusal? inRecord item).or (refusalOfAll? inRecord rest)

def refusalOfEntries? (inRecord : Bool) : List (Host × Host) → Option Fault
  | [] => none
  | (.text _, item) :: rest => (refusal? inRecord item).or (refusalOfEntries? inRecord rest)
  | (key, _) :: _ => some key.keyRefusal

def refusalOfFields? (inRecord : Bool) : List (String × Host) → Option Fault
  | [] => none
  | (_, item) :: rest => (refusal? inRecord item).or (refusalOfFields? inRecord rest)

end

end Host

namespace Eval

variable {α β : Type} {context : Context} {s : State}

/-- The fault of a result, if it is none that is wanted. -/
def faultOf : Except Fault α → Option Fault
  | .ok _ => none
  | .error fault => some fault

theorem eq_ok_iff {result : Except Fault Unit} : result = .ok () ↔ faultOf result = none := by
  cases result <;> simp [faultOf]

/-- A computation that fails with the given fault wherever it is run, or nowhere. -/
def FailsWith (fault? : Option Fault) (x : Eval α) : Prop :=
  ∀ context s, faultOf (x context s).1 = fault?

namespace FailsWith

protected theorem pure (a : α) : FailsWith none (pure a : Eval α) := fun _ _ => rfl

protected theorem fail (fault : Fault) : FailsWith (some fault) (fail fault : Eval α) :=
  fun _ _ => rfl

protected theorem bind {first second : Option Fault} {x : Eval α} {f : α → Eval β}
    (hx : FailsWith first x) (hf : ∀ a, FailsWith second (f a)) :
    FailsWith (first.or second) (x >>= f) := by
  intro context s
  have hfirst := hx context s
  show faultOf (Eval.bind x f context s).1 = _
  unfold Eval.bind
  generalize x context s = result at hfirst
  obtain ⟨outcome, t⟩ := result
  subst hfirst
  cases outcome with
  | ok a => exact hf a context t
  | error fault => rfl

/-- What comes afterwards cannot fail. -/
protected theorem before {fault? : Option Fault} {x : Eval α} {f : α → Eval β}
    (hx : FailsWith fault? x) (hf : ∀ a, FailsWith none (f a)) : FailsWith fault? (x >>= f) := by
  have h := hx.bind hf
  rwa [Option.or_none] at h

end FailsWith

theorem newObject_failsWith (kind : ObjectKind) (fields : Fields Value) :
    FailsWith none (newObject kind fields) := fun _ _ => rfl

theorem ofNumber_failsWith (n : Number) : FailsWith none (ofNumber n) := by
  unfold ofNumber
  split
  · exact fun _ _ => rfl
  · exact .pure _

theorem foreignKey_failsWith (key : Host) :
    FailsWith (some key.keyRefusal) (match key.written? with
      | some written => fail (.foreignKey key.typeName written)
      | none => fail .numeralTooLong : Eval (Fields Value)) := by
  unfold Host.keyRefusal
  split
  · exact .fail _
  · exact .fail _

mutual

theorem convert_failsWith (inRecord : Bool) : ∀ host : Host,
    FailsWith (host.refusal? inRecord) (convert inRecord host)
  | .null => .pure _
  | .bool _ => .pure _
  | .number n => ofNumber_failsWith n
  | .text _ => .pure _
  | .list items => (convertAll_failsWith inRecord items).before fun _ => .pure _
  | .tuple items => (convertAll_failsWith inRecord items).before fun _ => .pure _
  | .map entries =>
    (convertEntries_failsWith inRecord entries).before fun _ => newObject_failsWith _ _
  | .model entries =>
    (convertEntries_failsWith false entries).before fun _ => newObject_failsWith _ _
  | .record _ fields => by
    have hfields := (convertFields_failsWith true fields).before fun fields =>
      newObject_failsWith .plain (Fields.ofPairs fields)
    unfold Host.refusal? convert takeApart
    split
    · exact hfields
    · exact .fail _
  | .function _ => fun _ _ => rfl
  | .foreign _ => .fail _
  | .ready _ form => by
    cases inRecord with
    | true => exact convert_failsWith true form
    | false => exact .pure _

theorem convertAll_failsWith (inRecord : Bool) : ∀ items : List Host,
    FailsWith (Host.refusalOfAll? inRecord items) (convertAll inRecord items)
  | [] => .pure _
  | item :: rest => (convert_failsWith inRecord item).bind fun _ =>
    (convertAll_failsWith inRecord rest).before fun _ => .pure _

theorem convertEntries_failsWith (inRecord : Bool) : ∀ entries : List (Host × Host),
    FailsWith (Host.refusalOfEntries? inRecord entries) (convertEntries inRecord entries)
  | [] => .pure _
  | (key, item) :: rest => by
    have hrest := convertEntries_failsWith inRecord rest
    have hitem := convert_failsWith inRecord item
    cases key with
    | text key => exact hitem.bind fun _ => hrest.before fun _ => .pure _
    | _ => exact foreignKey_failsWith _

theorem convertFields_failsWith (inRecord : Bool) : ∀ fields : List (String × Host),
    FailsWith (Host.refusalOfFields? inRecord fields) (convertFields inRecord fields)
  | [] => .pure _
  | (_, item) :: rest => (convert_failsWith inRecord item).bind fun _ =>
    (convertFields_failsWith inRecord rest).before fun _ => .pure _

end

end Eval

/-- A value has a counterpart if there is no reason against it. -/
theorem Host.convertible_iff {host : Host} : host.Convertible ↔ host.refusal? false = none := by
  have hfails := Eval.convert_failsWith false host
  constructor
  · intro h
    obtain ⟨value, hvalue⟩ := h (.ofLibrary Host.stock [] false) .initial
    rw [← hfails, ← Eval.fromHost, hvalue]
    rfl
  · intro h context s
    have hnone := (hfails context s).trans h
    rw [Eval.fromHost]
    generalize (Eval.convert false host context s).1 = result at hnone
    cases result with
    | ok value => exact ⟨value, rfl⟩
    | error fault => cases hnone

/-! ## Variables -/

/-- The first reason against declaring variables one after the other where names are taken. -/
def Fields.obstacle? (taken : String → Bool) : Fields Host → Option Fault
  | [] => none
  | (name, host) :: rest =>
    (host.refusal? false).or <|
      if taken name then some (.alreadyDeclared name)
      else obstacle? (fun other => other == name || taken other) rest

namespace Fields

variable {fields : Fields Host} {taken : String → Bool}

/-- Variables can be declared if each has a counterpart and a name that is not taken. -/
theorem obstacle?_eq_none_iff (h : fields.keys.Nodup) :
    fields.obstacle? taken = none ↔
      ∀ pair ∈ fields, pair.2.refusal? false = none ∧ taken pair.1 = false := by
  induction fields generalizing taken with
  | nil => simp [obstacle?]
  | cons field rest ih =>
    obtain ⟨name, host⟩ := field
    obtain ⟨hnew, hrest⟩ := List.nodup_cons.mp h
    have hothers : ∀ pair ∈ rest, (pair.1 == name) = false := fun pair hmem =>
      beq_eq_false_iff_ne.mpr fun heq => hnew (List.mem_map.mpr ⟨pair, hmem, heq⟩)
    rw [obstacle?, Option.or_eq_none_iff, List.forall_mem_cons]
    cases htaken : taken name with
    | true => simp
    | false =>
      simp only [Bool.false_eq_true, ↓reduceIte, ih hrest, and_true]
      refine and_congr_right fun _ => forall₂_congr fun pair hmem => ?_
      rw [hothers pair hmem, Bool.false_or]

theorem mem_of_obstacle? {fault : Fault} (h : fields.keys.Nodup)
    (hfault : fields.obstacle? taken = some fault) :
    ∃ pair ∈ fields, pair.2.refusal? false = some fault ∨
      taken pair.1 = true ∧ fault = .alreadyDeclared pair.1 := by
  induction fields generalizing taken with
  | nil => cases hfault
  | cons field rest ih =>
    obtain ⟨name, host⟩ := field
    obtain ⟨hnew, hrest⟩ := List.nodup_cons.mp h
    rw [obstacle?, Option.or_eq_some_iff] at hfault
    rcases hfault with hrefusal | ⟨-, hfault⟩
    · exact ⟨_, .head _, .inl hrefusal⟩
    · split at hfault
      · rename_i htaken
        exact ⟨_, .head _, .inr ⟨htaken, (Option.some.inj hfault).symm⟩⟩
      · obtain ⟨pair, hmem, hpair⟩ := ih hrest hfault
        refine ⟨pair, .tail _ hmem, hpair.imp_right fun ⟨htaken, hsame⟩ => ⟨?_, hsame⟩⟩
        have hne : pair.1 ≠ name := fun heq => hnew (List.mem_map.mpr ⟨pair, hmem, heq⟩)
        simpa [hne] using htaken

end Fields

namespace Eval

variable {context : Context} {s : State}

theorem declare_of_taken {name : String} (value : Value)
    (htaken : s.environment.inner.bindings.has name = true) :
    declare name value context s = (.error (.alreadyDeclared name), s) := by
  unfold declare
  show Eval.bind (ofEnvironment (·.inner.bindings.has name)) _ context s = _
  simp only [Eval.bind, ofEnvironment, htaken]
  rfl

theorem faultOf_declareFields (fields : Fields Host) (context : Context) (s : State) :
    faultOf (declareFields fields context s).1 =
      fields.obstacle? s.environment.inner.bindings.has := by
  induction fields generalizing s with
  | nil => rfl
  | cons pair rest ih =>
    obtain ⟨name, host⟩ := pair
    have hfails : faultOf (fromHost host context s).1 = _ := convert_failsWith false host context s
    have hkept := (fromHost_adds host).works.indifferent.environment_eq context s
    show faultOf ((declareHost name host >>= fun _ => declareFields rest) context s).1 = _
    rw [Fields.obstacle?, ← hfails]
    cases hrun : fromHost host context s with
    | mk result t =>
      obtain ⟨m, environment⟩ := t
      rw [hrun] at hkept
      cases hkept
      cases result with
      | error fault =>
        have hdeclare : declareHost name host context s = (.error fault, ⟨m, s.environment⟩) :=
          run_bind_error hrun _
        exact congrArg (faultOf ·.1) (run_bind_error hdeclare _)
      | ok value =>
        cases htaken : s.environment.inner.bindings.has name with
        | true =>
          have hdeclare : declareHost name host context s =
              (.error (.alreadyDeclared name), ⟨m, s.environment⟩) :=
            (run_bind hrun _).trans
              (run_bind_error (declare_of_taken (s := ⟨m, s.environment⟩) value htaken) _)
          exact congrArg (faultOf ·.1) (run_bind_error hdeclare _)
        | false =>
          -- From here on the name is taken as well.
          rw [run_bind (run_declareHost name hrun htaken), ih]
          exact congrArg (Fields.obstacle? · rest) (funext fun other => Fields.has_put _ _ _ _)

/-- How starting a rendering fails, if it does. -/
theorem faultOf_startEnvironment (fields : Fields Host) (context : Context) (s : State) :
    faultOf (startEnvironment (.ofFields fields) context s).1 =
      fields.obstacle? builtinNames.contains := by
  have hstart : startEnvironment (.ofFields fields) =
      (startScope Test.all >>= fun _ => declareBuiltins) >>= fun _ => declareFields fields :=
    (bind_assoc _ _ _).symm
  rw [hstart, run_bind (run_builtins context s), faultOf_declareFields]
  congr 1
  funext name
  rw [Bool.eq_iff_iff, Fields.has_iff_mem_keys, List.contains_iff_mem]
  simp only [Fields.keys, builtinState, builtinEnvironment, builtinNames, List.map_cons,
    List.map_nil, List.mem_cons, List.not_mem_nil, or_false]
  tauto

end Eval

end TextTemplate
