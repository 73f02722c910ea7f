import TextTemplate.Proofs.Matching.Start

/-!
# How arguments reach what is called

Keyword arguments travel in a bundle behind the positional arguments and are taken apart again at
the other end. They arrive as they were written unless the last positional argument is a bundle
itself, in which case it is taken for theirs.
-/

namespace TextTemplate

/-- A bundle of keyword arguments. -/
def Value.isBundle : Value → Bool
  | .object .keywords _ | .table .keywords _ => true
  | _ => false

namespace Eval

variable {context : Context} {s : State} {positional : List Value}
  {keywords : List (Label × Value)}

/-- Fields with their names as labels. -/
def labelled (fields : Fields Value) : List (Label × Value) :=
  fields.map fun (key, value) => (.text key, value)

theorem named_labelled (fields : Fields Value) : Table.named (labelled fields) = fields := by
  induction fields with
  | nil => rfl
  | cons field fields ih => exact congrArg (field :: ·) ih

theorem all_isText_labelled (fields : Fields Value) : (labelled fields).all (·.1.isText) := by
  simp [labelled, Label.isText]

theorem newLabelled_labelled (kind : ObjectKind) (fields : Fields Value) :
    newLabelled kind (labelled fields) = newObject kind (Fields.ofPairs fields) := by
  rw [newLabelled, if_pos (all_isText_labelled fields), named_labelled]

/-- The arguments of a call as they are written. -/
def Arguments.written (positional : List Value) (keywords : List (Label × Value)) : Arguments :=
  if keywords.all (·.1.isText) then ⟨positional, Fields.ofPairs (Table.named keywords), []⟩
  else ⟨positional, Table.named (Table.ofPairs keywords), Table.unnamed (Table.ofPairs keywords)⟩

theorem Arguments.written_labelled (positional : List Value) (fields : Fields Value) :
    Arguments.written positional (labelled fields) = ⟨positional, Fields.ofPairs fields, []⟩ := by
  rw [Arguments.written, if_pos (all_isText_labelled fields), named_labelled]

theorem splitArguments_of_unbundled (h : ∀ value ∈ positional.getLast?, value.isBundle = false) :
    splitArguments positional = pure ⟨positional, [], []⟩ := by
  unfold splitArguments
  split
  · rename_i heq
    cases h _ heq
  · rename_i heq
    cases h _ heq
  · rfl

theorem run_splitArguments_object (positional : List Value) (address : Address) (context : Context)
    (s : State) :
    splitArguments (positional ++ [.object .keywords address]) context s =
      (.ok ⟨positional, s.memory.fields address, []⟩, s) := by
  simp only [splitArguments, List.getLast?_concat, List.dropLast_concat]
  rfl

/-- Taking arguments apart never fails and changes nothing. -/
theorem run_splitArguments (args : List Value) (context : Context) (s : State) :
    ∃ arguments, splitArguments args context s = (.ok arguments, s) := by
  rw [splitArguments]
  rcases args.getLast? with _ | value
  · exact ⟨_, rfl⟩
  · cases value with
    | object kind => cases kind <;> exact ⟨_, rfl⟩
    | table kind => cases kind <;> exact ⟨_, rfl⟩
    | _ => exact ⟨_, rfl⟩

/-- With keyword arguments, arguments are passed on as they are written. -/
theorem run_bundled_of_ne_nil (hkeywords : keywords ≠ []) (positional : List Value)
    (context : Context) (s : State) :
    ∃ args t, bundled positional keywords context s = (.ok args, t) ∧
      splitArguments args context t = (.ok (.written positional keywords), t) ∧
      t.environment = s.environment := by
  rw [bundled, if_neg (by simpa using hkeywords)]
  unfold newLabelled Arguments.written
  split
  · have hsplit (fields : Fields Value) :
        splitArguments (positional ++ [.object .keywords s.memory.objects.size]) context
            { s with memory := (s.memory.allocate fields).2 } =
          (.ok ⟨positional, fields, []⟩, { s with memory := (s.memory.allocate fields).2 }) := by
      have hfields := Memory.fields_allocate s.memory fields s.memory.objects.size
      rw [if_pos rfl] at hfields
      rw [run_splitArguments_object, hfields]
    exact ⟨_, _, rfl, hsplit _, rfl⟩
  · have hsplit (entries : Table Value) :
        splitArguments (positional ++ [.table .keywords s.memory.tables.size]) context
            { s with memory := (s.memory.allocateTable entries).2 } =
          (.ok ⟨positional, Table.named entries, Table.unnamed entries⟩,
            { s with memory := (s.memory.allocateTable entries).2 }) := by
      have hentries := Memory.entries_allocateTable s.memory entries s.memory.tables.size
      rw [if_pos rfl] at hentries
      have hread : entriesOf s.memory.tables.size context
          { s with memory := (s.memory.allocateTable entries).2 } =
            (.ok entries, { s with memory := (s.memory.allocateTable entries).2 }) :=
        congrArg (fun entries => (Except.ok entries, _)) hentries
      simp only [splitArguments, List.getLast?_concat, List.dropLast_concat]
      exact run_bind hread _
    exact ⟨_, _, rfl, hsplit _, rfl⟩

/-- Arguments are passed on as they are written, unless a bundle is passed on as the last positional
argument. -/
theorem run_bundled (positional : List Value) (keywords : List (Label × Value)) (context : Context)
    (s : State) :
    ∃ args t arguments, bundled positional keywords context s = (.ok args, t) ∧
      splitArguments args context t = (.ok arguments, t) ∧ t.environment = s.environment ∧
      ((∀ value ∈ positional.getLast?, value.isBundle = false) →
        arguments = .written positional keywords) := by
  by_cases hkeywords : keywords = []
  · subst hkeywords
    obtain ⟨arguments, hsplit⟩ := run_splitArguments positional context s
    refine ⟨positional, s, arguments, rfl, hsplit, rfl, fun hlast => ?_⟩
    rw [splitArguments_of_unbundled hlast] at hsplit
    cases hsplit
    rfl
  · obtain ⟨args, t, hbundled, hsplit, henvironment⟩ :=
      run_bundled_of_ne_nil hkeywords positional context s
    exact ⟨args, t, _, hbundled, hsplit, henvironment, fun _ => rfl⟩

/-- How arguments arrive: as they are written, but a bundle that is the last of them, with no
keyword arguments behind it, is taken for these. -/
inductive Arrive (m : Memory) : List Value → Fields Value → List Value → Fields Value → Prop
  | written {positional : List Value} {keywords : Fields Value}
    (hlast : keywords = [] → ∀ value ∈ positional.getLast?, value.isBundle = false) :
    Arrive m positional keywords positional (.ofPairs keywords)
  | bundle {positional : List Value} {address : Address} (hkeys : (m.fields address).keys.Nodup) :
    Arrive m (positional ++ [.object .keywords address]) [] positional (m.fields address)

namespace Arrive

variable {arrived : List Value} {keywords named : Fields Value}

theorem nodup_keys {m : Memory} (h : Arrive m positional keywords arrived named) :
    named.keys.Nodup := by
  cases h with
  | written => exact Fields.nodup_keys_ofPairs keywords
  | bundle hkeys => exact hkeys

theorem run (h : Arrive s.memory positional keywords arrived named) (context : Context) :
    ∃ passed t, bundled positional (labelled keywords) context s = (.ok passed, t) ∧
      splitArguments passed context t = (.ok ⟨arrived, named, []⟩, t) ∧
      t.environment = s.environment := by
  cases h with
  | bundle => exact ⟨_, s, rfl, run_splitArguments_object _ _ context s, rfl⟩
  | written hlast =>
    by_cases hkeywords : keywords = []
    · subst hkeywords
      exact ⟨positional, s, rfl, by rw [splitArguments_of_unbundled (hlast rfl)]; rfl, rfl⟩
    · have hlabelled : labelled keywords ≠ [] := by simpa [labelled] using hkeywords
      have hrun := run_bundled_of_ne_nil hlabelled positional context s
      rwa [Arguments.written_labelled] at hrun

end Arrive

/-- Keyword arguments are passed on in a bundle, behind the positional arguments. -/
theorem bundle_of_bundled {passed : List Value} {t : State} (hkeywords : keywords ≠ [])
    (h : bundled positional keywords context s = (.ok passed, t)) :
    ∃ bundle : Value, bundle.isBundle = true ∧ passed = positional ++ [bundle] := by
  unfold bundled at h
  rw [if_neg (by simpa using hkeywords)] at h
  unfold newLabelled at h
  split at h
  · cases h
    exact ⟨_, rfl, rfl⟩
  · cases h
    exact ⟨_, rfl, rfl⟩

/-- In whatever state they are taken apart, the positional arguments arrive as they are written. -/
theorem positional_of_bundled {passed : List Value} {t : State}
    (hlast : ∀ value ∈ positional.getLast?, value.isBundle = false)
    (h : bundled positional keywords context s = (.ok passed, t)) (u : State) :
    ∃ arguments, splitArguments passed context u = (.ok arguments, u) ∧
      arguments.positional = positional := by
  unfold bundled at h
  split at h
  · cases h
    exact ⟨_, congrFun (congrFun (splitArguments_of_unbundled hlast) context) u, rfl⟩
  · unfold newLabelled at h
    split at h
    · cases h
      simp only [splitArguments, List.getLast?_concat, List.dropLast_concat]
      exact ⟨_, rfl, rfl⟩
    · cases h
      simp only [splitArguments, List.getLast?_concat, List.dropLast_concat]
      exact ⟨_, rfl, rfl⟩

end Eval

end TextTemplate
