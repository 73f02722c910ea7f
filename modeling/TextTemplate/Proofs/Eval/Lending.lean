import TextTemplate.Proofs.Eval.Answers
import TextTemplate.Proofs.Eval.Unbundled

/-!
# Where a bundle can get through

One law for each function of the evaluator: from values without bundles it comes to a value without
bundles, also when it is called with keyword arguments. The exception is the method `get`, which
takes a bundle for the fallback it is to answer with.
-/

namespace TextTemplate

/-- The function is to answer with its second argument: it is the method `get`, and there is nothing
under the key it is called with. -/
def Function.FallsBack (memory : Memory) : Function → List Value → Prop
  | .ofObject .get address, [.text key, _] => (memory.fields address).get? key = none
  | .ofObject .get _, [.label _, _] => True
  | .ofTable .get address, [.text key, _] =>
    Table.get? (.text key) (memory.entries address) = none
  | .ofTable .get address, [.label label, _] => Table.get? label (memory.entries address) = none
  | _, _ => False

namespace Eval

open Value (AllUnbundled)

variable {α : Type} {good : α → Prop}

/-! ## Operators -/

theorem truth_keeps (value : Value) : Keeps Whatever (truth value) := by
  cases value with
  | object _ address => exact (fieldsOf_keeps address).bind fun _ _ => .pure trivial
  | table _ address => exact (entriesOf_keeps address).bind fun _ _ => .pure trivial
  | _ => exact .pure trivial

theorem numeral_keeps (n : Number) : Keeps Whatever (numeral n) := by
  unfold numeral
  split
  · exact .pure trivial
  · exact .fail _

theorem concatText_keeps (operator : String) (value : Value) :
    Keeps Whatever (concatText operator value) := by
  cases value with
  | text => exact .pure trivial
  | number n => exact numeral_keeps n
  | bool => exact .pure trivial
  | _ => exact .fail _

theorem displayText_keeps (value : Value) : Keeps Whatever (displayText value) := by
  refine (toHost_keeps value).bind fun host _ => ?_
  split
  · exact .pure trivial
  · exact .fail _

theorem equal_keeps (a b : Value) : Keeps Whatever (equal a b) :=
  (snapshot_keeps a).bind fun _ _ => (snapshot_keeps b).bind fun _ _ => .pure trivial

theorem compareEquality_keeps (operator : String) (left right : Value) :
    Keeps Whatever (compareEquality operator left right) := by
  unfold compareEquality
  dsimp only
  split
  all_goals first
    | exact .pure trivial
    | exact .ite (fun _ => .pure trivial) fun _ => .fail _

theorem arithmetic_keeps (operator : String) (result : Except Number.Trouble Number) :
    Keeps Value.Unbundled (arithmetic operator result) := by
  unfold arithmetic
  split
  · exact ofNumber_keeps _
  · exact .fail _
  · exact .fail _

theorem numericBinary_keeps (operator : String) (a b : Number) :
    Keeps Value.Unbundled (numericBinary operator a b) := by
  unfold numericBinary
  split
  all_goals first
    | exact arithmetic_keeps _ _
    | exact .pure (.bool _)
    | exact .fail _

theorem textBinary_keeps (operator a b : String) :
    Keeps Value.Unbundled (textBinary operator a b) := by
  unfold textBinary
  split
  all_goals first
    | exact .pure (.bool _)
    | exact .fail _

theorem isAmong_keeps (value : Value) (items : List Value) :
    Keeps Whatever (isAmong value items) :=
  (snapshot_keeps value).bind fun _ _ =>
    (Keeps.mapAll fun item _ => snapshot_keeps item).bind fun _ _ => .pure trivial

theorem membership_keeps {found : Eval Bool} (operator : String) (h : Keeps Whatever found) :
    Keeps Value.Unbundled (found >>= fun found => pure (membership operator found)) :=
  h.bind fun _ _ => .pure (.bool _)

theorem concatLabel_keeps (operator : String) (value : Value) :
    Keeps Whatever (concatLabel operator value) := by
  have htext : Keeps Whatever (do
      let s ← concatText operator value
      pure (.text s) : Eval Label) :=
    (concatText_keeps operator value).bind fun _ _ => .pure trivial
  cases value with
  | label => exact .pure trivial
  | _ => exact htext

theorem joinLabels_keeps (a b : Label) : Keeps Value.Unbundled (joinLabels a b) := by
  unfold joinLabels
  split
  · exact .pure (.text _)
  · exact .pure (.label _)
  · split
    · refine (arithmetic_keeps "+" _).bind fun sum hsum => ?_
      split
      · exact .pure (.label _)
      · exact .pure hsum
    · exact .fail _

theorem labelContains_keeps (part label : Label) : Keeps Whatever (labelContains part label) := by
  cases label with
  | tuple => exact .pure trivial
  | _ => exact .fail _

theorem labelBinary_keeps (operator : String) (a b : Label) :
    Keeps Value.Unbundled (labelBinary operator a b) := by
  unfold labelBinary
  dsimp only
  split
  all_goals first
    | exact membership_keeps _ (labelContains_keeps _ _)
    | exact .fail _
    | split
      · exact .pure (.bool _)
      · exact .fail _

theorem concatenation_keeps (operator : String) (left right : Value) :
    Keeps Value.Unbundled (concatenation operator left right) := by
  have hlabels : Keeps Value.Unbundled (do
      let a ← concatLabel operator left
      let b ← concatLabel operator right
      joinLabels a b) :=
    (concatLabel_keeps operator left).bind fun _ _ =>
      (concatLabel_keeps operator right).bind fun _ _ => joinLabels_keeps _ _
  unfold concatenation
  split
  · exact hlabels
  · exact hlabels
  · exact (concatText_keeps operator left).bind fun _ _ =>
      (concatText_keeps operator right).bind fun _ _ => .pure (.text _)

theorem hasField_keeps (key : Value) (address : Address) :
    Keeps Whatever (hasField key address) := by
  unfold hasField
  split
  · exact (fieldsOf_keeps address).bind fun _ _ => .pure trivial
  · exact .pure trivial

theorem hasEntry_keeps (key : Value) (address : Address) :
    Keeps Whatever (hasEntry key address) := by
  refine (entriesOf_keeps address).bind fun _ _ => ?_
  split
  · exact .pure trivial
  · exact .pure trivial
  · exact .pure trivial

theorem presentBinary_keeps (operator : String) {left right : Value} (hleft : left.Unbundled)
    (hright : right.Unbundled) : Keeps Value.Unbundled (presentBinary operator left right) := by
  have hjoined := concatenation_keeps operator left right
  unfold presentBinary
  dsimp only
  split
  · exact numericBinary_keeps _ _ _
  · cases hright with
    | array hitems =>
      split
      · cases hleft with
        | array hothers =>
          refine .ite (fun _ => .pure (.array fun item hmem => ?_)) fun _ =>
            .ite (fun _ => membership_keeps _ (isAmong_keeps _ _)) fun _ => .fail _
          exact (List.mem_append.mp hmem).elim (hothers item) (hitems item)
      · exact .ite (fun _ => membership_keeps _ (isAmong_keeps _ _)) fun _ => .fail _
  all_goals first
    | exact .fail _
    | exact .ite (fun _ => hjoined) fun _ => .fail _
    | exact .ite (fun _ => hjoined) fun _ => textBinary_keeps _ _ _
    | exact .ite (fun _ => hjoined) fun _ => labelBinary_keeps _ _ _
    | exact .ite (fun _ => hjoined) fun _ =>
        .ite (fun _ => membership_keeps _ (hasField_keeps _ _)) fun _ => .fail _
    | exact .ite (fun _ => hjoined) fun _ =>
        .ite (fun _ => membership_keeps _ (hasEntry_keeps _ _)) fun _ => .fail _

theorem applyBinary_keeps (operator : String) {left right : Value} (hleft : left.Unbundled)
    (hright : right.Unbundled) : Keeps Value.Unbundled (applyBinary operator left right) := by
  refine .ite (fun _ => ?_) fun _ => .ite (fun _ => concatenation_keeps _ _ _) fun _ =>
    .ite (fun _ => .fail _) fun _ => presentBinary_keeps operator hleft hright
  exact (compareEquality_keeps operator left right).bind fun _ _ => .pure (.bool _)

theorem applyUnary_keeps (operator : String) (argument : Value) :
    Keeps Value.Unbundled (applyUnary operator argument) := by
  unfold applyUnary
  split
  · exact (truth_keeps argument).bind fun _ _ => .pure (.bool _)
  · exact ofNumber_keeps _
  · exact .pure (.number _)
  · exact .fail _

/-! ## Members -/

theorem method_keeps (value : Value) (name : String) :
    Keeps Value.Unbundled (method value name) := by
  unfold method
  split
  case h_3 => exact .ite (fun _ => newFunction_keeps _) fun _ => .pure .undefined
  case h_6 => exact .pure .undefined
  all_goals
    split
    · exact newFunction_keeps _
    · exact .pure .undefined

theorem itemAt_keeps (type : String) (length : Nat) (index : Int) {item : Option Value}
    (h : ∀ value ∈ item, value.Unbundled) :
    Keeps Value.Unbundled (itemAt type length index item) := by
  cases item with
  | some item => exact .pure (h item rfl)
  | none =>
    simp only [itemAt]
    split
    · exact .fail _
    · exact .fail _

theorem entryOf_keeps (object : Value) (address : Address) (label : Label) :
    Keeps Value.Unbundled (entryOf object address label) := by
  refine (entriesOf_keeps address).bind fun entries hentries => ?_
  split
  · rename_i hget
    exact .pure (hentries.get? hget)
  · exact method_keeps _ _
  · exact .pure .undefined

theorem labelItem_keeps (object : Value) (label : Label) (index : Int) :
    Keeps Value.Unbundled (labelItem object label index) := by
  cases label with
  | tuple =>
    refine itemAt_keeps _ _ _ fun item hitem => ?_
    obtain ⟨label, -, rfl⟩ := Option.mem_map.mp hitem
    exact .ofLabel label
  | _ => exact .fail _

theorem member_keeps {object : Value} (hobject : object.Unbundled) (property : Value) :
    Keeps Value.Unbundled (member object property) := by
  unfold member
  split
  · refine (fieldsOf_keeps _).bind fun fields hfields => ?_
    split
    · rename_i hget
      exact .pure (hfields.get? hget)
    · exact method_keeps _ _
  · exact entryOf_keeps _ _ _
  · exact entryOf_keeps _ _ _
  · cases hobject with
    | array hitems => exact itemAt_keeps _ _ _ fun item hitem => hitems item (mem_of_at? hitem)
  · refine itemAt_keeps _ _ _ fun item hitem => ?_
    obtain ⟨_, -, rfl⟩ := Option.mem_map.mp hitem
    exact .text _
  · exact labelItem_keeps _ _ _
  · exact method_keeps _ _
  · exact method_keeps _ _
  · exact method_keeps _ _
  all_goals first
    | exact .pure .undefined
    | exact .fail _

theorem memberByLabel_keeps {object : Value} (hobject : object.Unbundled) (label? : Option Label) :
    Keeps Value.Unbundled (memberByLabel object label?) := by
  cases label? with
  | some label => exact member_keeps hobject _
  | none => exact .fail _

theorem sliceBound_keeps (value : Value) : Keeps Whatever (sliceBound value) := by
  unfold sliceBound
  split
  · exact .pure trivial
  · exact .pure trivial
  · exact .pure trivial
  · exact .fail _

theorem slice_keeps {sequence : Value} (h : sequence.Unbundled) (start stop step : Option Int) :
    Keeps Value.Unbundled (slice sequence start stop step) := by
  refine .ite (fun _ => .fail _) fun _ => ?_
  split
  · cases h with
    | array hitems => exact .pure (.array fun item hmem => hitems item (mem_of_mem_slice hmem))
  · exact .pure (.text _)
  · exact .pure (.label _)
  · exact .fail _
  · exact .fail _

/-! ## Methods -/

theorem checkTextual_keeps (method : TextMethod) (least most : Nat) (args : List Value) :
    Keeps Whatever (checkTextual method least most args) :=
  .ite (fun _ => .pure trivial) fun _ => .fail _

theorem textArguments_keeps (method : TextMethod) (least most : Nat) (args : List Value) :
    Keeps Whatever (textArguments method least most args) := by
  refine (checkTextual_keeps method least most args).bind fun _ _ => ?_
  split
  · exact .pure trivial
  · exact .fail _

theorem stripWith_keeps (strip : (Char → Bool) → List Char → List Char) (method : TextMethod)
    (receiver : String) (args : List Value) :
    Keeps Value.Unbundled (stripWith strip method receiver args) := by
  refine (textArguments_keeps method 0 1 args).bind fun texts _ => ?_
  split
  · exact .pure (.text _)
  · exact .pure (.text _)

theorem hasAffix_keeps (holds : List Char → List Char → Bool) (method : TextMethod)
    (receiver : String) (args : List Value) :
    Keeps Value.Unbundled (hasAffix holds method receiver args) := by
  refine (textArguments_keeps method 1 1 args).bind fun texts _ => ?_
  split
  · exact .pure (.bool _)
  · exact .pure (.bool _)

theorem texts_unbundled (parts : List (List Char)) : (texts parts).Unbundled := by
  refine .array fun item hmem => ?_
  obtain ⟨part, -, rfl⟩ := List.mem_map.mp hmem
  exact .text _

theorem split_keeps (receiver : String) (args : List Value) :
    Keeps Value.Unbundled (split receiver args) := by
  refine (textArguments_keeps .split 0 1 args).bind fun separator _ => ?_
  split
  · exact .pure (texts_unbundled _)
  · exact .ite (fun _ => .fail _) fun _ => .pure (texts_unbundled _)

theorem replacementLimit_keeps (count : Int) : Keeps Whatever (replacementLimit count) :=
  .ite (fun _ => .fail _) fun _ => .ite (fun _ => .pure trivial) fun _ => .pure trivial

theorem replace_keeps (receiver : String) (args : List Value) :
    Keeps Value.Unbundled (replace receiver args) := by
  unfold replace
  dsimp only
  split
  · exact .pure (.text _)
  · exact (replacementLimit_keeps _).bind fun _ _ => .pure (.text _)
  · exact .ite (fun _ => .fail _) fun _ => .fail _

/-- Whatever the arguments are, the answer is made from the text alone. -/
theorem callTextMethod_keeps (method : TextMethod) (receiver : String) (args : List Value) :
    Keeps Value.Unbundled (callTextMethod method receiver args) := by
  cases method with
  | upper | lower | title => exact .pure (.text _)
  | length => exact .pure (.number _)
  | strip | lstrip | rstrip => exact stripWith_keeps _ _ receiver args
  | startswith | endswith => exact hasAffix_keeps _ _ receiver args
  | split => exact split_keeps receiver args
  | replace => exact replace_keeps receiver args

theorem callLabelMethod_keeps (method : TextMethod) (receiver : Label) (args : List Value) :
    Keeps Value.Unbundled (callLabelMethod method receiver args) := by
  have hunfit (least most : Nat) (fault : Fault) : Keeps Value.Unbundled (do
      checkTextual method least most args
      fail fault : Eval Value) :=
    (checkTextual_keeps method least most args).bind fun _ _ => .fail _
  cases method with
  | upper | lower | title => exact .fail _
  | length =>
    cases hlength : receiver.length? with
    | some n =>
      simp only [callLabelMethod, hlength]
      exact .pure (.number _)
    | none =>
      simp only [callLabelMethod, hlength]
      exact .fail _
  | strip | lstrip | rstrip | startswith | endswith | split => exact hunfit _ _ _
  | replace => exact .ite (fun _ => .fail _) fun _ => .fail _

theorem itemPairs_unbundled {fields : Fields Value} (h : Fields.All Value.Unbundled fields) :
    (itemPairs fields).Unbundled := by
  refine .array fun item hmem => ?_
  obtain ⟨pair, hpair, rfl⟩ := List.mem_map.mp hmem
  exact .array (List.forall_mem_cons.mpr ⟨.text _, List.forall_mem_singleton.mpr (h pair hpair)⟩)

theorem entryPairs_unbundled {entries : Table Value} (h : Table.All Value.Unbundled entries) :
    (entryPairs entries).Unbundled := by
  refine .array fun item hmem => ?_
  obtain ⟨pair, hpair, rfl⟩ := List.mem_map.mp hmem
  exact .array (List.forall_mem_cons.mpr
    ⟨.ofLabel _, List.forall_mem_singleton.mpr (h pair hpair)⟩)

section Methods

variable {context : Context} {s : State} {address : Address} {args : List Value}

theorem callObjectMethod_keepsAt (method : ObjectMethod) (hs : s.Unbundled)
    (hargs : (Function.ofObject method address).FallsBack s.memory args → AllUnbundled args) :
    KeepsAt Value.Unbundled (callObjectMethod method address args) context s := by
  intro value t h
  obtain ⟨fields, r, hread, hanswer⟩ := bind_eq_ok h
  cases hread
  have hfields := hs.memory.fields address
  cases method with
  | get =>
    -- A label is under no key of an object, so with a label the second argument always comes back.
    dsimp only at hanswer
    split at hanswer
    · cases hanswer
      exact ⟨.getD (fun _ hget => hfields.get? hget) .null, hs⟩
    · rename_i key fallback
      cases hanswer
      cases hget : (s.memory.fields address).get? key with
      | some value => exact ⟨hfields.get? hget, hs⟩
      | none => exact ⟨hargs hget _ (by simp), hs⟩
    · cases hanswer
      exact ⟨.null, hs⟩
    · cases hanswer
      exact ⟨hargs trivial _ (by simp), hs⟩
    · cases hanswer
  | items =>
    cases hanswer
    exact ⟨itemPairs_unbundled hfields, hs⟩
  | keys =>
    cases hanswer
    refine ⟨.array fun item hmem => ?_, hs⟩
    obtain ⟨key, -, rfl⟩ := List.mem_map.mp hmem
    exact .text key
  | values =>
    cases hanswer
    refine ⟨.array fun item hmem => ?_, hs⟩
    obtain ⟨pair, hpair, rfl⟩ := List.mem_map.mp hmem
    exact hfields pair hpair

theorem callTableMethod_keepsAt (method : ObjectMethod) (hs : s.Unbundled)
    (hargs : (Function.ofTable method address).FallsBack s.memory args → AllUnbundled args) :
    KeepsAt Value.Unbundled (callTableMethod method address args) context s := by
  intro value t h
  obtain ⟨entries, r, hread, hanswer⟩ := bind_eq_ok h
  cases hread
  have hentries := hs.memory.entries address
  cases method with
  | get =>
    dsimp only at hanswer
    -- The arguments may end in a bundle; it is answered with where nothing is found.
    split at hanswer
    · cases hanswer
      exact ⟨.getD (fun _ hget => hentries.get? hget) .null, hs⟩
    · rename_i key fallback
      cases hanswer
      cases hget : Table.get? (.text key) (s.memory.entries address) with
      | some value => exact ⟨hentries.get? hget, hs⟩
      | none => exact ⟨hargs hget _ (by simp), hs⟩
    · cases hanswer
      exact ⟨.getD (fun _ hget => hentries.get? hget) .null, hs⟩
    · rename_i label fallback
      cases hanswer
      cases hget : Table.get? label (s.memory.entries address) with
      | some value => exact ⟨hentries.get? hget, hs⟩
      | none => exact ⟨hargs hget _ (by simp), hs⟩
    · cases hanswer
  | items =>
    cases hanswer
    exact ⟨entryPairs_unbundled hentries, hs⟩
  | keys =>
    cases hanswer
    refine ⟨.array fun item hmem => ?_, hs⟩
    obtain ⟨pair, -, rfl⟩ := List.mem_map.mp hmem
    exact .ofLabel pair.1
  | values =>
    cases hanswer
    refine ⟨.array fun item hmem => ?_, hs⟩
    obtain ⟨pair, hpair, rfl⟩ := List.mem_map.mp hmem
    exact hentries pair hpair

end Methods

/-! ## Calls -/

/-- Arguments as a call passes them on: there may be a bundle behind the positional ones. -/
inductive Passed : List Value → Prop
  | positional {args : List Value} (h : AllUnbundled args) : Passed args
  | bundled {positional : List Value} {bundle : Value} (h : AllUnbundled positional)
    (hbundle : bundle.isBundle = true) : Passed (positional ++ [bundle])

/-- Arguments without bundles. -/
structure Arguments.Unbundled (arguments : Arguments) : Prop where
  positional : AllUnbundled arguments.positional
  keywords : Fields.All Value.Unbundled arguments.keywords

theorem splitArguments_keeps {args : List Value} (h : Passed args) :
    Keeps Arguments.Unbundled (splitArguments args) := by
  -- Whether or not there is a bundle, what stands before the last argument is positional.
  have hbefore : AllUnbundled args.dropLast := by
    cases h with
    | positional h => exact fun value hmem => h value (List.dropLast_subset _ hmem)
    | bundled h _ => rwa [List.dropLast_concat]
  unfold splitArguments
  split
  · exact (fieldsOf_keeps _).bind fun _ hfields => .pure ⟨hbefore, hfields⟩
  · exact (entriesOf_keeps _).bind fun _ hentries => .pure ⟨hbefore, hentries.named⟩
  · rename_i hobject htable
    cases h with
    | positional h => exact .pure ⟨h, nofun⟩
    | @bundled positional bundle h hbundle =>
      rw [List.getLast?_concat] at hobject htable
      unfold Value.isBundle at hbundle
      split at hbundle
      · exact absurd rfl (hobject _)
      · exact absurd rfl (htable _)
      · cases hbundle

theorem splitArguments_keeps_whatever (args : List Value) :
    Keeps Whatever (splitArguments args) := by
  intro context s _ hs arguments t hrun
  obtain ⟨found, hfound⟩ := run_splitArguments args context s
  rw [hfound] at hrun
  cases hrun
  exact ⟨trivial, hs⟩

theorem callNamespace_keeps (args : List Value) : Keeps Value.Unbundled (callNamespace args) := by
  unfold callNamespace
  split
  · exact newObject_keeps fun _ hmem => absurd hmem List.not_mem_nil
  · exact (fieldsOf_keeps _).bind fun _ hfields => newObject_keeps hfields
  · exact (entriesOf_keeps _).bind fun _ hentries => newTable_keeps hentries
  · exact .fail _

theorem progressionValue_keeps (start stop step : Int) :
    Keeps Value.Unbundled (progressionValue start stop step) := by
  refine .ite (fun _ => .fail _) fun _ => .ite (fun _ => .pure (.array ?_)) fun _ => .fail _
  intro item hmem
  obtain ⟨i, -, rfl⟩ := List.mem_map.mp hmem
  exact .number _

theorem callRange_keeps (args : List Value) : Keeps Value.Unbundled (callRange args) := by
  refine (splitArguments_keeps_whatever args).bind fun arguments _ => ?_
  dsimp only
  refine .ite (fun _ => ?_) fun _ => ?_
  · unfold refuseKeywords
    split
    · exact .fail _
    · exact .fail _
  · split
    all_goals first
      | exact progressionValue_keeps _ _ _
      | exact .fail _

theorem callRaiseException_keeps (args : List Value) :
    Keeps Value.Unbundled (callRaiseException args) := by
  unfold callRaiseException
  split
  · exact .fail _
  · exact .fail _
  · exact (displayText_keeps _).bind fun _ _ => .fail _

theorem callBuiltin_keeps (builtin : Builtin) (args : List Value) :
    Keeps Value.Unbundled (callBuiltin builtin args) := by
  cases builtin with
  | namespace_ => exact callNamespace_keeps args
  | range => exact callRange_keeps args
  | raiseException => exact callRaiseException_keeps args

/-- A way of calling host functions that brings in no bundles. -/
def HostKeeps (callHost : HostFunction → List Host → Fields Host → Eval Host) : Prop :=
  ∀ function args keywords, (∀ arg ∈ args, arg.Unbundled) → Fields.All Host.Unbundled keywords →
    Keeps Host.Unbundled (callHost function args keywords)

section Host

variable {callHost : HostFunction → List Host → Fields Host → Eval Host}

theorem callWithArguments_keeps (h : HostKeeps callHost) (function : HostFunction)
    (arguments : Arguments) :
    Keeps Value.Unbundled (callWithArguments callHost function arguments) := by
  have hkeyword (pair : String × Value) : Keeps (fun field : String × Host => field.2.Unbundled) (do
      let host ← toHost pair.2
      pure (pair.1, host)) := (toHost_keeps pair.2).bind fun _ hhost => .pure hhost
  refine Keeps.bind (Keeps.mapAll fun pair _ => hkeyword pair) fun keywords hkeywords => ?_
  refine (Keeps.mapAll fun value _ => toHost_keeps value).bind fun args hargs => ?_
  exact .ite (fun _ => (h function args keywords hargs hkeywords).bind fun _ hanswer =>
    fromHost_keeps hanswer) fun _ => .fail _

/-- A function answers with a value without bundles, unless it falls back on a bundle. -/
theorem callWith_keepsAt (h : HostKeeps callHost) (function : Function) {args : List Value}
    {context : Context} {s : State} (hlibrary : HostLibrary.Unbundled context.library)
    (hs : s.Unbundled) (hargs : function.FallsBack s.memory args → AllUnbundled args) :
    KeepsAt Value.Unbundled (callWith callHost function args) context s := by
  cases function with
  | ofText method receiver => exact callTextMethod_keeps method receiver args context s hlibrary hs
  | ofLabel method receiver =>
    exact callLabelMethod_keeps method receiver args context s hlibrary hs
  | ofArray length => exact .pure (.number _) hs
  | ofObject method address => exact callObjectMethod_keepsAt method hs hargs
  | ofTable method address => exact callTableMethod_keepsAt method hs hargs
  | builtin builtin => exact callBuiltin_keeps builtin args context s hlibrary hs
  | host function =>
    have hcall : Keeps Value.Unbundled (do
        let arguments ← splitArguments args
        callWithArguments callHost function arguments) :=
      (splitArguments_keeps_whatever args).bind fun arguments _ =>
        callWithArguments_keeps h function arguments
    exact hcall context s hlibrary hs

theorem perform_keeps {callHost : HostFunction → List Host → Eval Host}
    (h : ∀ function args, (∀ arg ∈ args, arg.Unbundled) →
      Keeps Host.Unbundled (callHost function args))
    {action : HostAction} (haction : action.Unbundled) :
    Keeps Host.Unbundled (perform callHost action) := by
  induction haction with
  | answer hvalue => exact .pure hvalue
  | fail => exact .fail _
  | call function hargs _ ih =>
    exact (h function _ hargs).bind fun answer hanswer => ih answer hanswer

/-- By induction on how deep the calls of host functions may be nested. -/
theorem callHostWithin_keeps (depth : Nat) : HostKeeps (callHostWithin depth) := by
  induction depth with
  | zero => exact fun _ _ _ _ _ => .fail _
  | succ depth ih =>
    intro function args keywords hargs hkeywords
    cases function with
    | named name =>
      -- Only here is something asked of the library.
      intro context s hlibrary hs
      exact perform_keeps (fun function args hargs => ih function args [] hargs nofun)
        (hlibrary name args keywords hargs hkeywords) context s hlibrary hs
    | template function =>
      refine .ite (fun _ => ?_) fun _ => .fail _
      refine (Keeps.mapAll fun arg hmem => fromHost_keeps (hargs arg hmem)).bind
        fun values hvalues => ?_
      have hcall : Keeps Value.Unbundled (callWith (callHostWithin depth) function values) :=
        fun context s hlibrary hs => callWith_keepsAt ih function hlibrary hs fun _ => hvalues
      exact hcall.bind fun answer _ => toHost_keeps answer

theorem callHost_keeps : HostKeeps Eval.callHost := by
  intro function args keywords hargs hkeywords context s hlibrary hs
  exact callHostWithin_keeps context.callDepth function args keywords hargs hkeywords context s
    hlibrary hs

end Host

theorem call_keepsAt (function : Function) {args : List Value} {context : Context} {s : State}
    (hlibrary : HostLibrary.Unbundled context.library) (hs : s.Unbundled)
    (hargs : function.FallsBack s.memory args → AllUnbundled args) :
    KeepsAt Value.Unbundled (call function args) context s :=
  callWith_keepsAt callHost_keeps function hlibrary hs hargs

theorem callValue_keepsAt {callee : Value} {args : List Value} {context : Context} {s : State}
    (hlibrary : HostLibrary.Unbundled context.library) (hs : s.Unbundled)
    (hargs : ∀ mark function, callee = .function mark function →
      function.FallsBack s.memory args → AllUnbundled args) :
    KeepsAt Value.Unbundled (callValue callee args) context s := by
  cases callee with
  | function mark function => exact call_keepsAt function hlibrary hs (hargs mark function rfl)
  | _ => exact .fail _

theorem bundled_keeps {positional : List Value} (hpositional : AllUnbundled positional)
    {keywords : List (Label × Value)} (hkeywords : Table.All Value.Unbundled keywords) :
    Keeps (fun args => Passed args ∧ (keywords = [] → AllUnbundled args))
      (bundled positional keywords) := by
  have hbundle : Keeps (·.isBundle = true) (newLabelled .keywords keywords) := by
    refine .ite (fun _ => ?_) fun _ => ?_
    · have hallocate : Keeps Whatever
          (withMemory (·.allocate (Fields.ofPairs (Table.named keywords)))) :=
        .withMemory fun _ hmemory => ⟨trivial, hmemory.allocate hkeywords.named.ofPairs⟩
      exact hallocate.bind fun _ _ => .pure rfl
    · have hallocate : Keeps Whatever (withMemory (·.allocateTable (Table.ofPairs keywords))) :=
        .withMemory fun _ hmemory => ⟨trivial, hmemory.allocateTable hkeywords.ofPairs⟩
      exact hallocate.bind fun _ _ => .pure rfl
  refine .ite (fun _ => .pure ⟨.positional hpositional, fun _ => hpositional⟩) fun hsome => ?_
  refine hbundle.bind fun bundle hbundle => .pure ⟨.bundled hpositional hbundle, ?_⟩
  rintro rfl
  exact absurd rfl hsome

/-! ## Filters and tests -/

theorem pickArgument_unbundled {positional : List Value} (hpositional : AllUnbundled positional)
    {keywords : Fields Value} (hkeywords : Fields.All Value.Unbundled keywords) (index : Nat)
    (name : String) {default : Value} (hdefault : default.Unbundled) :
    (pickArgument positional keywords index name default).Unbundled := by
  unfold pickArgument
  split
  · rename_i hget
    exact hpositional _ (List.mem_of_getElem? hget)
  · exact .getD (fun _ hget => hkeywords.get? hget) hdefault

section Filters

variable {operand : Value} {positional : List Value} {keywords : Fields Value}

theorem defaultTo_keeps (hoperand : operand.Unbundled) (hpositional : AllUnbundled positional)
    (hkeywords : Fields.All Value.Unbundled keywords) :
    Keeps Value.Unbundled (defaultTo operand positional keywords) := by
  have hfallback := pickArgument_unbundled hpositional hkeywords 0 "default_value" (.text "")
  unfold defaultTo
  dsimp only
  split
  · exact .pure hfallback
  · refine (truth_keeps _).bind fun alsoFalse _ => (truth_keeps _).bind fun holds _ => .pure ?_
    split
    · exact hfallback
    · exact hoperand

theorem indentOf_keeps (operand indent : Value) : Keeps Whatever (indentOf operand indent) := by
  have hspaces (i : Int) : Keeps Whatever (indentOf.spaces i) :=
    .ite (fun _ => .fail _) fun _ => .pure trivial
  unfold indentOf
  split
  all_goals first
    | exact .pure trivial
    | exact hspaces _
    | exact .fail _
    | skip
  unfold indentOf.ofLabel
  split
  all_goals first
    | exact .pure trivial
    | exact hspaces _
    | exact .fail _

theorem document_keeps (operand : Value) (host : Host) (spaces : Option (List Char)) :
    Keeps Value.Unbundled
      (match (Json.readable spaces).document host with
        | .ok document => pure (.text document)
        | .error .numeralTooLong => Eval.fail .numeralTooLong
        | .error fault =>
          Eval.fail (.cannotSerialize operand.kindName fault.reason) : Eval Value) := by
  split
  · exact .pure (.text _)
  · exact .fail _
  · exact .fail _

theorem toJson_keeps (operand indent : Value) : Keeps Value.Unbundled (toJson operand indent) := by
  refine (toHost_keeps operand).bind fun host _ => ?_
  dsimp only
  split
  · rename_i s _
    exact document_keeps operand (.text s) none
  · exact (indentOf_keeps operand indent).bind fun spaces _ => document_keeps operand host spaces

theorem toText_keeps (operand : Value) : Keeps Value.Unbundled (toText operand) := by
  unfold toText
  split
  · exact .pure (.text _)
  · exact .pure (.label _)
  · exact .pure (.text _)
  · exact .pure (.text _)
  · exact (displayText_keeps _).bind fun _ _ => .pure (.text _)

theorem joinText?_keeps (item : Value) : Keeps Whatever (joinText? item) := by
  unfold joinText?
  split
  · exact .pure trivial
  · exact .pure trivial
  · exact (displayText_keeps _).bind fun _ _ => .pure trivial

theorem join_keeps (items : List Value) (separator : Value) :
    Keeps Value.Unbundled (join items separator) := by
  unfold join
  split
  · refine (Keeps.mapAll fun item _ => joinText?_keeps item).bind fun parts _ => ?_
    split
    · exact .pure (.text _)
    · exact .fail _
  · exact .fail _
  · exact .fail _

theorem filterArray_keeps (name : String) {items : List Value} (hitems : AllUnbundled items) :
    Keeps Value.Unbundled (filterArray name items positional keywords) := by
  unfold filterArray
  split
  · exact .pure (.array hitems)
  · exact .pure (.getD (fun item hitem => hitems item (List.mem_of_mem_head? hitem)) .undefined)
  · exact .pure (.getD (fun item hitem => hitems item (List.mem_of_getLast? hitem)) .undefined)
  · exact .pure (.number _)
  · exact .pure (.number _)
  · exact .pure (.array fun item hmem => hitems item (List.mem_reverse.mp hmem))
  · exact .fail _
  · exact join_keeps items _
  · exact .fail _

theorem filterText_keeps (name s : String) : Keeps Value.Unbundled (filterText name s) := by
  unfold filterText
  split
  all_goals first
    | exact .pure (.text _)
    | exact .pure (.number _)
    | exact .fail _

theorem filterLabel_keeps (name : String) (label : Label) :
    Keeps Value.Unbundled (filterLabel name label) := by
  unfold filterLabel
  split
  all_goals first
    | exact .fail _
    | split
      · exact .pure (.number _)
      · exact .fail _

theorem filterObject_keeps (name : String) (kind : ObjectKind) (address : Address) :
    Keeps Value.Unbundled (filterObject name kind address) := by
  refine (fieldsOf_keeps address).bind fun fields hfields => ?_
  split
  · exact .pure (itemPairs_unbundled hfields)
  · exact .pure (.number _)
  · exact .pure (.number _)
  · exact .fail _

theorem filterTable_keeps (name : String) (kind : ObjectKind) (address : Address) :
    Keeps Value.Unbundled (filterTable name kind address) := by
  refine (entriesOf_keeps address).bind fun entries hentries => ?_
  split
  · exact .pure (entryPairs_unbundled hentries)
  · exact .pure (.number _)
  · exact .pure (.number _)
  · exact .fail _

theorem applyBuiltinFilter_keeps (name : String) (hoperand : operand.Unbundled)
    (hpositional : AllUnbundled positional) (hkeywords : Fields.All Value.Unbundled keywords) :
    Keeps Value.Unbundled (applyBuiltinFilter name operand positional keywords) := by
  unfold applyBuiltinFilter
  split
  · exact defaultTo_keeps hoperand hpositional hkeywords
  · exact defaultTo_keeps hoperand hpositional hkeywords
  · exact toJson_keeps operand _
  · exact toText_keeps operand
  · cases hoperand with
    | array hitems => exact filterArray_keeps name hitems
    | text s => exact filterText_keeps name s
    | label l => exact filterLabel_keeps name l
    | number n => exact .ite (fun _ => ofNumber_keeps _) fun _ => .fail _
    | object address => exact filterObject_keeps name .plain address
    | table address => exact filterTable_keeps name .plain address
    | _ => exact .fail _

theorem applyFilter_keeps (name : String) (hoperand : operand.Unbundled) {args : List Value}
    (hargs : Passed args) : Keeps Value.Unbundled (applyFilter name operand args) := by
  refine (splitArguments_keeps hargs).bind fun arguments harguments => ?_
  refine context_keeps.bind fun context _ => ?_
  split
  · exact callWithArguments_keeps callHost_keeps _ _
  · exact applyBuiltinFilter_keeps name hoperand harguments.positional harguments.keywords

end Filters

theorem applyTest_keeps (test : Test) (value : Value) (args : List Value) :
    Keeps Whatever (applyTest test value args) := by
  have hparity (test : Test) (remainder : Int) :
      Keeps Whatever (hasParity test remainder value) := by
    unfold hasParity
    split
    · exact .pure trivial
    · exact .fail _
  unfold applyTest
  split
  all_goals first
    | exact .pure trivial
    | exact .fail _
    | exact hparity _ _
    | split
      · exact equal_keeps _ _
      · exact .fail _

end Eval

end TextTemplate
