import TextTemplate.Proofs.Matching.Start
import TextTemplate.Proofs.Value.Fields

/-!
# What conversions make

Giving a host value to a template only adds to the memory. A map of values that have counterparts
becomes a new object, whose fields are texts where the map has texts.
-/

namespace TextTemplate

open List (Forall₂)

namespace Eval

variable {context : Context} {s : State}

/-- A value with a counterpart is converted, which only adds to the memory. -/
theorem run_fromHost {host : Host} (h : host.Convertible) (context : Context) (s : State) :
    ∃ value m, fromHost host context s = (.ok value, { s with memory := m }) ∧
      Memory.Grows s.memory m := by
  obtain ⟨value, hvalue⟩ := h context s
  have hgrows := (fromHost_adds host).grows context s
  have hkept := (fromHost_adds host).works.indifferent.environment_eq context s
  generalize fromHost host context s = result at hvalue hgrows hkept
  obtain ⟨outcome, m, environment⟩ := result
  cases hvalue
  cases hkept
  exact ⟨value, m, rfl, hgrows⟩

/-- A field of a map and what becomes of it. -/
def Converted (field : String × Host) (pair : String × Value) : Prop :=
  pair.1 = field.1 ∧ ∀ text, field.2 = .text text → pair.2 = .text text

theorem run_convertEntries {fields : Fields Host} (h : ∀ field ∈ fields, field.2.Convertible)
    (context : Context) (s : State) :
    ∃ pairs m, convertEntries false (fields.map fun (key, value) => (.text key, value)) context s =
        (.ok pairs, { s with memory := m }) ∧
      Memory.Grows s.memory m ∧ Forall₂ Converted fields pairs := by
  induction fields generalizing s with
  | nil => exact ⟨[], s.memory, rfl, .refl _, .nil⟩
  | cons field rest ih =>
    obtain ⟨key, host⟩ := field
    obtain ⟨hhost, hrest⟩ := List.forall_mem_cons.mp h
    obtain ⟨value, m, hvalue, hgrows⟩ := run_fromHost hhost context s
    obtain ⟨pairs, m', hpairs, hgrows', hconverted⟩ := ih hrest { s with memory := m }
    refine ⟨(key, value) :: pairs, m', ?_, hgrows.trans hgrows', .cons ⟨rfl, ?_⟩ hconverted⟩
    · exact (run_bind hvalue _).trans ((run_bind hpairs _).trans rfl)
    · rintro text rfl
      exact (Except.ok.inj (congrArg Prod.fst hvalue)).symm

theorem keys_eq_of_converted {fields : Fields Host} {pairs : Fields Value}
    (h : Forall₂ Converted fields pairs) : pairs.keys = fields.keys := by
  induction h with
  | nil => rfl
  | cons hfield _ ih => exact congrArg₂ List.cons hfield.1 ih

theorem get?_of_converted {fields : Fields Host} {pairs : Fields Value}
    (h : Forall₂ Converted fields pairs) {key text : String}
    (htext : fields.get? key = some (.text text)) : pairs.get? key = some (.text text) := by
  induction h with
  | nil => cases htext
  | @cons field pair _ _ hfield _ ih =>
    obtain ⟨name, value⟩ := pair
    obtain ⟨rfl, hvalue⟩ := hfield
    simp only [Fields.get?, List.lookup] at htext ih ⊢
    split
    · rename_i hname
      rw [hname] at htext
      exact congrArg some (hvalue text (Option.some.inj htext))
    · rename_i hname
      rw [hname] at htext
      exact ih htext

/-- A map becomes an object that has the same texts. -/
theorem run_fromHost_ofFields {fields : Fields Host} (hkeys : fields.keys.Nodup)
    (h : ∀ field ∈ fields, field.2.Convertible) (context : Context) (s : State) :
    ∃ address m, fromHost (.ofFields fields) context s =
        (.ok (.object .plain address), { s with memory := m }) ∧
      Memory.Grows s.memory m ∧ address < m.objects.size ∧
      ∀ key text, fields.get? key = some (.text text) →
        (m.fields address).get? key = some (.text text) := by
  obtain ⟨pairs, m, hpairs, hgrows, hconverted⟩ := run_convertEntries h context s
  refine ⟨m.objects.size, (m.allocate (Fields.ofPairs pairs)).2, (run_bind hpairs _).trans rfl,
    hgrows.trans (Memory.grows_allocate _ _), by simp [Memory.allocate], fun key text htext => ?_⟩
  rw [Memory.fields_allocate, if_pos rfl, Fields.get?_ofPairs_of_nodup,
    get?_of_converted hconverted htext]
  rw [keys_eq_of_converted hconverted]
  exact hkeys

end Eval

end TextTemplate
