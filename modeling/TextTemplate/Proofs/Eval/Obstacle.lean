import TextTemplate.Proofs.Eval.Refusal

/-!
# What stands in the way of host values

A host value is refused just if something in it is in the way: a part without a counterpart, a key
that is no text, or a record that cannot be taken apart.
-/

namespace TextTemplate

namespace Host

/-- What is in the way in a value, which may stand within a record, and what is said against it. -/
inductive Obstacle : Bool → Host → Fault → Prop
  | foreign (inRecord : Bool) (kind : Foreign) :
    Obstacle inRecord (.foreign kind) (.foreignValue kind.typeName)
  | mapKey (inRecord : Bool) {key item : Host} {entries : List (Host × Host)}
    (hmem : (key, item) ∈ entries) (hkey : ∀ s, key ≠ .text s) :
    Obstacle inRecord (.map entries) key.keyRefusal
  | modelKey (inRecord : Bool) {key item : Host} {entries : List (Host × Host)}
    (hmem : (key, item) ∈ entries) (hkey : ∀ s, key ≠ .text s) :
    Obstacle inRecord (.model entries) key.keyRefusal
  /-- A record in which some key is a record itself, or a tuple with one, cannot be taken apart. -/
  | clogged (inRecord : Bool) (typeName : String) {fields : List (String × Host)}
    (h : fieldsUnfold fields = false) : Obstacle inRecord (.record typeName fields) .unfit
  | listItem {inRecord : Bool} {item : Host} {items : List Host} {fault : Fault}
    (hmem : item ∈ items) (h : Obstacle inRecord item fault) : Obstacle inRecord (.list items) fault
  | tupleItem {inRecord : Bool} {item : Host} {items : List Host} {fault : Fault}
    (hmem : item ∈ items) (h : Obstacle inRecord item fault) :
    Obstacle inRecord (.tuple items) fault
  | mapValue {inRecord : Bool} {key item : Host} {entries : List (Host × Host)} {fault : Fault}
    (hmem : (key, item) ∈ entries) (h : Obstacle inRecord item fault) :
    Obstacle inRecord (.map entries) fault
  | modelValue (inRecord : Bool) {key item : Host} {entries : List (Host × Host)} {fault : Fault}
    (hmem : (key, item) ∈ entries) (h : Obstacle false item fault) :
    Obstacle inRecord (.model entries) fault
  | field (inRecord : Bool) (typeName : String) {name : String} {item : Host}
    {fields : List (String × Host)} {fault : Fault} (hfields : fieldsUnfold fields)
    (hmem : (name, item) ∈ fields) (h : Obstacle true item fault) :
    Obstacle inRecord (.record typeName fields) fault
  | form (value : Value) {form : Host} {fault : Fault} (h : Obstacle true form fault) :
    Obstacle true (.ready value form) fault

variable {inRecord : Bool} {items : List Host} {entries : List (Host × Host)}
  {fields : List (String × Host)} {host : Host} {fault : Fault}

/-! ## Refused for an obstacle -/

mutual

theorem obstacle_of_refusal? (inRecord : Bool) : ∀ (host : Host) (fault : Fault),
    host.refusal? inRecord = some fault → host.Obstacle inRecord fault
  | .list items, fault, h => by
    obtain ⟨item, hmem, hitem⟩ := obstacle_of_refusalOfAll? inRecord items fault h
    exact .listItem hmem hitem
  | .tuple items, fault, h => by
    obtain ⟨item, hmem, hitem⟩ := obstacle_of_refusalOfAll? inRecord items fault h
    exact .tupleItem hmem hitem
  | .map entries, fault, h => by
    obtain ⟨key, item, hmem, hitem | ⟨hkey, rfl⟩⟩ :=
      obstacle_of_refusalOfEntries? inRecord entries fault h
    · exact .mapValue hmem hitem
    · exact .mapKey inRecord hmem hkey
  | .model entries, fault, h => by
    obtain ⟨key, item, hmem, hitem | ⟨hkey, rfl⟩⟩ :=
      obstacle_of_refusalOfEntries? false entries fault h
    · exact .modelValue inRecord hmem hitem
    · exact .modelKey inRecord hmem hkey
  | .record typeName fields, fault, h => by
    unfold refusal? at h
    split at h
    · rename_i hfields
      obtain ⟨name, item, hmem, hitem⟩ := obstacle_of_refusalOfFields? true fields fault h
      exact .field inRecord typeName hfields hmem hitem
    · rename_i hfields
      cases h
      exact .clogged inRecord typeName (Bool.eq_false_iff.mpr hfields)
  | .foreign kind, _, h => by cases h; exact .foreign inRecord kind
  | .ready value form, fault, h => by
    cases inRecord with
    | true => exact .form value (obstacle_of_refusal? true form fault h)
    | false => cases h
  | .null, _, h | .bool _, _, h | .number _, _, h | .text _, _, h | .function _, _, h => by cases h

theorem obstacle_of_refusalOfAll? (inRecord : Bool) : ∀ (items : List Host) (fault : Fault),
    refusalOfAll? inRecord items = some fault → ∃ item ∈ items, item.Obstacle inRecord fault
  | item :: rest, fault, h => by
    rw [refusalOfAll?, Option.or_eq_some_iff] at h
    rcases h with h | ⟨-, h⟩
    · exact ⟨item, .head _, obstacle_of_refusal? inRecord item fault h⟩
    · obtain ⟨other, hmem, hother⟩ := obstacle_of_refusalOfAll? inRecord rest fault h
      exact ⟨other, .tail _ hmem, hother⟩

theorem obstacle_of_refusalOfEntries? (inRecord : Bool) :
    ∀ (entries : List (Host × Host)) (fault : Fault),
      refusalOfEntries? inRecord entries = some fault → ∃ key item, (key, item) ∈ entries ∧
        (item.Obstacle inRecord fault ∨ (∀ s, key ≠ .text s) ∧ fault = key.keyRefusal)
  | (key, item) :: rest, fault, h => by
    unfold refusalOfEntries? at h
    split at h
    · cases h
    · rename_i heq
      cases heq
      rcases Option.or_eq_some_iff.mp h with h | ⟨-, h⟩
      · exact ⟨_, item, .head _, .inl (obstacle_of_refusal? inRecord item fault h)⟩
      · obtain ⟨other, value, hmem, hother⟩ := obstacle_of_refusalOfEntries? inRecord rest fault h
        exact ⟨other, value, .tail _ hmem, hother⟩
    · rename_i hkey heq
      cases heq
      exact ⟨key, item, .head _, .inr ⟨fun s => hkey s, (Option.some.inj h).symm⟩⟩

theorem obstacle_of_refusalOfFields? (inRecord : Bool) :
    ∀ (fields : List (String × Host)) (fault : Fault),
      refusalOfFields? inRecord fields = some fault →
        ∃ name item, (name, item) ∈ fields ∧ item.Obstacle inRecord fault
  | (name, item) :: rest, fault, h => by
    rw [refusalOfFields?, Option.or_eq_some_iff] at h
    rcases h with h | ⟨-, h⟩
    · exact ⟨name, item, .head _, obstacle_of_refusal? inRecord item fault h⟩
    · obtain ⟨other, value, hmem, hother⟩ := obstacle_of_refusalOfFields? inRecord rest fault h
      exact ⟨other, value, .tail _ hmem, hother⟩

end

/-! ## Nothing in the way of what is not refused -/

theorem refusalOfAll?_eq_none_iff : refusalOfAll? inRecord items = none ↔
    ∀ item ∈ items, item.refusal? inRecord = none := by
  induction items with
  | nil => simp [refusalOfAll?]
  | cons item rest ih => rw [refusalOfAll?, Option.or_eq_none_iff, ih, List.forall_mem_cons]

theorem refusalOfFields?_eq_none_iff : refusalOfFields? inRecord fields = none ↔
    ∀ field ∈ fields, field.2.refusal? inRecord = none := by
  induction fields with
  | nil => simp [refusalOfFields?]
  | cons field rest ih => rw [refusalOfFields?, Option.or_eq_none_iff, ih, List.forall_mem_cons]

theorem refusalOfEntries?_eq_none (h : refusalOfEntries? inRecord entries = none) :
    ∀ entry ∈ entries, (∃ s, entry.1 = .text s) ∧ entry.2.refusal? inRecord = none := by
  induction entries with
  | nil => nofun
  | cons entry rest ih =>
    obtain ⟨key, item⟩ := entry
    unfold refusalOfEntries? at h
    split at h
    · rename_i heq
      cases heq
    · rename_i heq
      cases heq
      obtain ⟨hitem, hrest⟩ := Option.or_eq_none_iff.mp h
      exact List.forall_mem_cons.mpr ⟨⟨⟨_, rfl⟩, hitem⟩, ih hrest⟩
    · cases h

theorem Obstacle.refusal?_ne_none (h : host.Obstacle inRecord fault) :
    host.refusal? inRecord ≠ none := by
  induction h with
  | foreign inRecord kind => exact Option.some_ne_none _
  | mapKey inRecord hmem hkey =>
    intro hnone
    obtain ⟨⟨s, heq⟩, -⟩ := refusalOfEntries?_eq_none hnone _ hmem
    exact hkey s heq
  | modelKey inRecord hmem hkey =>
    intro hnone
    obtain ⟨⟨s, heq⟩, -⟩ := refusalOfEntries?_eq_none hnone _ hmem
    exact hkey s heq
  | clogged inRecord typeName h =>
    rw [refusal?, if_neg (by rw [h]; decide)]
    exact Option.some_ne_none _
  | listItem hmem _ ih => exact fun hnone => ih (refusalOfAll?_eq_none_iff.mp hnone _ hmem)
  | tupleItem hmem _ ih => exact fun hnone => ih (refusalOfAll?_eq_none_iff.mp hnone _ hmem)
  | mapValue hmem _ ih => exact fun hnone => ih (refusalOfEntries?_eq_none hnone _ hmem).2
  | modelValue inRecord hmem _ ih =>
    exact fun hnone => ih (refusalOfEntries?_eq_none hnone _ hmem).2
  | field inRecord typeName hfields hmem _ ih =>
    intro hnone
    rw [refusal?, if_pos hfields] at hnone
    exact ih (refusalOfFields?_eq_none_iff.mp hnone _ hmem)
  | form value _ ih => exact ih

end Host

/-! ## Errors -/

/-- An error of the class for values that a template cannot be given. -/
def Fault.IsValueError (fault : Fault) : Prop :=
  ∃ report, fault.problem = .reported report ∧ report.errorClass = .value

/-- What is said against a value is of the class for such values, unless a record cannot be taken
apart or a key holds a whole number that is too long to write. -/
theorem Host.Obstacle.isValueError {inRecord : Bool} {host : Host} {fault : Fault}
    (h : host.Obstacle inRecord fault) :
    fault.IsValueError ∨ fault = .unfit ∨ fault = .numeralTooLong := by
  have hkey (key : Host) : key.keyRefusal.IsValueError ∨ key.keyRefusal = .unfit ∨
      key.keyRefusal = .numeralTooLong := by
    unfold Host.keyRefusal
    split
    · exact .inl ⟨_, rfl, rfl⟩
    · exact .inr (.inr rfl)
  induction h with
  | foreign => exact .inl ⟨_, rfl, rfl⟩
  | mapKey => exact hkey _
  | modelKey => exact hkey _
  | clogged => exact .inr (.inl rfl)
  | listItem _ _ ih => exact ih
  | tupleItem _ _ ih => exact ih
  | mapValue _ _ ih => exact ih
  | modelValue _ _ _ ih => exact ih
  | field _ _ _ _ _ ih => exact ih
  | form _ _ ih => exact ih

namespace Eval

/-- A host value is refused just if something is in its way, and for something that is. -/
theorem fromHost_refused (host : Host) (context : Context) (s : State) :
    ((∃ fault, (fromHost host context s).1 = .error fault) ↔ ∃ fault, host.Obstacle false fault) ∧
      ∀ fault, (fromHost host context s).1 = .error fault → host.Obstacle false fault := by
  have hfault : faultOf (fromHost host context s).1 = host.refusal? false :=
    convert_failsWith false host context s
  have hobstacle (fault : Fault) (h : (fromHost host context s).1 = .error fault) :
      host.Obstacle false fault := by
    rw [h] at hfault
    exact Host.obstacle_of_refusal? false host fault hfault.symm
  refine ⟨⟨fun ⟨fault, h⟩ => ⟨fault, hobstacle fault h⟩, fun ⟨fault, h⟩ => ?_⟩, hobstacle⟩
  cases hresult : (fromHost host context s).1 with
  | error fault => exact ⟨fault, rfl⟩
  | ok value =>
    rw [hresult] at hfault
    exact absurd hfault.symm h.refusal?_ne_none

end Eval

end TextTemplate
