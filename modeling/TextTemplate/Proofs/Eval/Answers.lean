import TextTemplate.Proofs.Eval.Plain

/-!
# What functions answer for plain values

One law for each function of the evaluator: from plain values it comes to a plain value, or it
fails as foreseen.
-/

namespace TextTemplate.Eval

open Value (AllPlain PlainFields)

/-! ## Memory -/

theorem fieldsOf_sound (address : Address) : Sound PlainFields (fieldsOf address) :=
  .ofMemory fun _ h => h address

theorem entriesOf_sound (address : Address) : Sound Anything (entriesOf address) :=
  .ofMemory fun _ _ => trivial

theorem newObject_sound (kind : ObjectKind) {fields : Fields Value} (h : PlainFields fields) :
    Sound Value.Plain (newObject kind fields) := by
  have hallocate : Sound Anything (withMemory (·.allocate fields)) :=
    .withMemory fun memory hmemory => ⟨trivial, fun address => by
      rw [Memory.fields_allocate]
      split
      · exact h
      · exact hmemory address⟩
  exact hallocate.bind fun address _ => .pure (.object kind address)

/-- Fields that are named by texts. -/
def PlainPairs (pairs : List (Label × Value)) : Prop :=
  ∀ pair ∈ pairs, pair.1.isText ∧ pair.2.Plain

theorem PlainPairs.named {pairs : List (Label × Value)} (h : PlainPairs pairs) :
    PlainFields (Table.named pairs) := by
  intro pair hmem
  obtain ⟨⟨label, value⟩, hpair, hname⟩ := List.mem_filterMap.mp hmem
  cases label with
  | text name => cases hname; exact (h _ hpair).2
  | _ => cases hname

theorem newLabelled_sound (kind : ObjectKind) {pairs : List (Label × Value)}
    (h : PlainPairs pairs) : Sound Value.Plain (newLabelled kind pairs) := by
  rw [newLabelled, if_pos (List.all_eq_true.mpr fun pair hmem => (h pair hmem).1)]
  exact newObject_sound kind h.named.ofPairs

theorem freshMark_sound : Sound Anything (withMemory Memory.freshMark) :=
  .withMemory fun _ h => ⟨trivial, h⟩

theorem newFunction_sound {function : Function} (h : function.Plain) :
    Sound Value.Plain (newFunction function) :=
  freshMark_sound.bind fun mark _ => .pure (.function mark h)

theorem ofNumber_sound (n : Number) : Sound Value.Plain (ofNumber n) := by
  unfold ofNumber
  split
  · exact freshMark_sound.bind fun _ _ => .pure (.number _)
  · exact .pure (.number _)

theorem snapshot_sound (value : Value) : Sound Anything (snapshot value) := by
  have hends : Sound Anything (ofMemory (·.ends value)) := .ofMemory fun _ _ => trivial
  exact hends.bind fun ends _ => .ite (fun _ => .ofMemory fun _ _ => trivial) fun _ => .fail rfl

theorem toHost_sound (value : Value) : Sound Anything (toHost value) :=
  (snapshot_sound value).bind fun _ _ => .pure trivial

/-! ## Operators -/

theorem truth_sound (value : Value) : Sound Anything (truth value) := by
  cases value with
  | object _ address => exact (fieldsOf_sound address).bind fun _ _ => .pure trivial
  | table _ address => exact (entriesOf_sound address).bind fun _ _ => .pure trivial
  | _ => exact .pure trivial

theorem numeral_sound (n : Number) : Sound Anything (numeral n) := by
  unfold numeral
  split
  · exact .pure trivial
  · exact .fail rfl

theorem concatText_sound (operator : String) (value : Value) :
    Sound Anything (concatText operator value) := by
  cases value with
  | text => exact .pure trivial
  | number n => exact numeral_sound n
  | bool => exact .pure trivial
  | _ => exact .fail rfl

theorem displayText_sound (value : Value) : Sound Anything (displayText value) := by
  refine (toHost_sound value).bind fun host _ => ?_
  split
  · exact .pure trivial
  · exact .fail rfl

theorem equal_sound (a b : Value) : Sound Anything (equal a b) :=
  (snapshot_sound a).bind fun _ _ => (snapshot_sound b).bind fun _ _ => .pure trivial

theorem compareEquality_sound (operator : String) (left right : Value) :
    Sound Anything (compareEquality operator left right) := by
  unfold compareEquality
  dsimp only
  split
  all_goals first
    | exact .pure trivial
    | exact .ite (fun _ => .pure trivial) fun _ => .fail rfl

theorem arithmetic_sound (operator : String) (result : Except Number.Trouble Number) :
    Sound Value.Plain (arithmetic operator result) := by
  unfold arithmetic
  split
  · exact ofNumber_sound _
  · exact .fail rfl
  · exact .fail rfl

theorem numericBinary_sound (operator : String) (a b : Number) :
    Sound Value.Plain (numericBinary operator a b) := by
  unfold numericBinary
  split
  all_goals first
    | exact arithmetic_sound _ _
    | exact .pure (.bool _)
    | exact .fail rfl

theorem textBinary_sound (operator a b : String) : Sound Value.Plain (textBinary operator a b) := by
  unfold textBinary
  split
  all_goals first
    | exact .pure (.bool _)
    | exact .fail rfl

theorem isAmong_sound (value : Value) (items : List Value) :
    Sound Anything (isAmong value items) :=
  (snapshot_sound value).bind fun _ _ =>
    (Sound.mapAll fun item _ => snapshot_sound item).bind fun _ _ => .pure trivial

theorem concatenation_sound (operator : String) {left right : Value} (hleft : left.Plain)
    (hright : right.Plain) : Sound Value.Plain (concatenation operator left right) := by
  unfold concatenation
  split
  · cases hleft
  · cases hright
  · exact (concatText_sound operator left).bind fun _ _ =>
      (concatText_sound operator right).bind fun _ _ => .pure (.text _)

theorem tilde_sound {left right : Value} (hleft : left.Plain) (hright : right.Plain) :
    Sound Value.Plain (tilde left right) := by
  have hpresented {value : Value} (h : value.Plain) :
      (if isAbsent value then .text "" else value : Value).Plain := by
    split
    · exact .text ""
    · exact h
  exact concatenation_sound "~" (hpresented hleft) (hpresented hright)

theorem hasField_sound (key : Value) (address : Address) :
    Sound Anything (hasField key address) := by
  unfold hasField
  split
  · exact (fieldsOf_sound address).bind fun _ _ => .pure trivial
  · exact .pure trivial

theorem membership_sound {found : Eval Bool} (operator : String) (h : Sound Anything found) :
    Sound Value.Plain (found >>= fun found => pure (membership operator found)) :=
  h.bind fun _ _ => .pure (.bool _)

theorem presentBinary_sound (operator : String) {left right : Value} (hleft : left.Plain)
    (hright : right.Plain) : Sound Value.Plain (presentBinary operator left right) := by
  have hjoined := concatenation_sound operator hleft hright
  unfold presentBinary
  dsimp only
  split
  · exact numericBinary_sound _ _ _
  · cases hright with
    | array hitems =>
      split
      · cases hleft with
        | array hothers =>
          refine .ite (fun _ => .pure (.array fun item hmem => ?_)) fun _ =>
            .ite (fun _ => membership_sound _ (isAmong_sound _ _)) fun _ => .fail rfl
          exact (List.mem_append.mp hmem).elim (hothers item) (hitems item)
      · exact .ite (fun _ => membership_sound _ (isAmong_sound _ _)) fun _ => .fail rfl
  · exact .ite (fun _ => hjoined) fun _ => textBinary_sound _ _ _
  · cases hleft
  · cases hleft
  · cases hright
  · exact .ite (fun _ => hjoined) fun _ =>
      .ite (fun _ => membership_sound _ (hasField_sound _ _)) fun _ => .fail rfl
  · cases hleft
  · cases hright
  · cases hright
  · exact .ite (fun _ => hjoined) fun _ => .fail rfl
  · cases hleft
  · exact .ite (fun _ => hjoined) fun _ => .fail rfl
  · cases hright
  · exact .fail rfl
  · exact .fail rfl
  · exact .fail rfl

theorem applyBinary_sound (operator : String) {left right : Value} (hleft : left.Plain)
    (hright : right.Plain) : Sound Value.Plain (applyBinary operator left right) := by
  refine .ite (fun _ => ?_) fun _ => .ite (fun _ => tilde_sound hleft hright) fun _ =>
    .ite (fun _ => .fail rfl) fun _ => presentBinary_sound operator hleft hright
  exact (compareEquality_sound operator left right).bind fun _ _ => .pure (.bool _)

theorem applyUnary_sound (operator : String) (argument : Value) :
    Sound Value.Plain (applyUnary operator argument) := by
  unfold applyUnary
  split
  · exact (truth_sound argument).bind fun _ _ => .pure (.bool _)
  · exact ofNumber_sound _
  · exact .pure (.number _)
  · exact .fail rfl

/-! ## Members -/

theorem method_sound {value : Value} (h : value.Plain) (name : String) :
    Sound Value.Plain (method value name) := by
  unfold method
  split
  · split
    · exact newFunction_sound (.ofText _ _)
    · exact .pure .undefined
  · cases h
  · exact .ite (fun _ => newFunction_sound (.ofArray _)) fun _ => .pure .undefined
  · split
    · exact newFunction_sound (.ofObject _ _)
    · exact .pure .undefined
  · cases h
  · exact .pure .undefined

theorem itemAt_sound (type : String) (length : Nat) (index : Int) {item : Option Value}
    (h : ∀ value ∈ item, value.Plain) : Sound Value.Plain (itemAt type length index item) := by
  cases item with
  | some item => exact .pure (h item rfl)
  | none =>
    simp only [itemAt]
    split
    · exact .fail rfl
    · exact .fail rfl

theorem mem_of_mem_everyFrom {step skip : Nat} {items : List Value} {item : Value}
    (h : item ∈ Sequence.everyFrom step skip items) : item ∈ items := by
  fun_induction Sequence.everyFrom step skip items with
  | case1 => cases h
  | case2 a rest ih => exact List.mem_cons.mpr ((List.mem_cons.mp h).imp_right ih)
  | case3 skip _ rest ih => exact List.mem_cons_of_mem _ (ih h)

theorem mem_of_mem_slice {items : List Value} {start stop : Option Int} {step : Int}
    {item : Value} (h : item ∈ Sequence.slice items start stop step) : item ∈ items := by
  unfold Sequence.slice Sequence.sliceForward Sequence.sliceBackward at h
  split at h
  · exact List.mem_of_mem_take (List.mem_of_mem_drop (mem_of_mem_everyFrom h))
  · have hwindow := List.mem_reverse.mp (mem_of_mem_everyFrom h)
    exact List.mem_of_mem_take (List.mem_of_mem_drop hwindow)

theorem mem_of_at? {items : List Value} {index : Int} {item : Value}
    (h : Sequence.at? items index = some item) : item ∈ items := by
  unfold Sequence.at? at h
  dsimp only at h
  generalize (if index < 0 then index + items.length else index) = position at h
  split at h
  · cases h
  · exact List.mem_of_getElem? h

theorem member_sound {object property : Value} (hobject : object.Plain)
    (hproperty : property.Plain) : Sound Value.Plain (member object property) := by
  unfold member
  split
  · refine (fieldsOf_sound _).bind fun fields hfields => ?_
    split
    · rename_i hget
      exact .pure (hfields.get? hget)
    · exact method_sound hobject _
  · cases hobject
  · cases hobject
  · cases hobject with
    | array hitems => exact itemAt_sound _ _ _ fun item hitem => hitems item (mem_of_at? hitem)
  · refine itemAt_sound _ _ _ fun item hitem => ?_
    obtain ⟨_, -, rfl⟩ := Option.mem_map.mp hitem
    exact .text _
  · cases hobject
  · exact method_sound hobject _
  · exact method_sound hobject _
  · cases hobject
  · cases hproperty
  · cases hproperty
  · cases hproperty
  · cases hproperty
  · exact .fail rfl

theorem sliceBound_sound (value : Value) : Sound Anything (sliceBound value) := by
  unfold sliceBound
  split
  · exact .pure trivial
  · exact .pure trivial
  · exact .pure trivial
  · exact .fail rfl

theorem slice_sound {sequence : Value} (h : sequence.Plain) (start stop step : Option Int) :
    Sound Value.Plain (slice sequence start stop step) := by
  refine .ite (fun _ => .fail rfl) fun _ => ?_
  split
  · cases h with
    | array hitems => exact .pure (.array fun item hmem => hitems item (mem_of_mem_slice hmem))
  · exact .pure (.text _)
  · cases h
  · cases h
  · exact .fail rfl

/-! ## Methods -/

theorem checkTextual_sound (method : TextMethod) (least most : Nat) (args : List Value) :
    Sound (fun _ => args.all isTextual) (checkTextual method least most args) := by
  refine .ite (fun h => .pure ?_) fun _ => .fail rfl
  exact (Bool.and_eq_true_iff.mp h).2

theorem exists_texts {args : List Value} (h : AllPlain args) (htextual : args.all isTextual) :
    ∃ texts, allTexts? args = some texts := by
  induction args with
  | nil => exact ⟨[], rfl⟩
  | cons arg rest ih =>
    obtain ⟨harg, hrest⟩ := List.forall_mem_cons.mp h
    simp only [List.all_cons, Bool.and_eq_true] at htextual
    obtain ⟨texts, htexts⟩ := ih hrest htextual.2
    cases harg with
    | text s => exact ⟨s :: texts, by simp [allTexts?, htexts]⟩
    | _ => cases htextual.1

theorem textArguments_sound (method : TextMethod) (least most : Nat) {args : List Value}
    (h : AllPlain args) : Sound Anything (textArguments method least most args) := by
  refine (checkTextual_sound method least most args).bind fun _ htextual => ?_
  obtain ⟨texts, htexts⟩ := exists_texts h htextual
  rw [htexts]
  exact .pure trivial

theorem stripWith_sound (strip : (Char → Bool) → List Char → List Char) (method : TextMethod)
    (receiver : String) {args : List Value} (h : AllPlain args) :
    Sound Value.Plain (stripWith strip method receiver args) := by
  refine (textArguments_sound method 0 1 h).bind fun texts _ => ?_
  split
  · exact .pure (.text _)
  · exact .pure (.text _)

theorem hasAffix_sound (holds : List Char → List Char → Bool) (method : TextMethod)
    (receiver : String) {args : List Value} (h : AllPlain args) :
    Sound Value.Plain (hasAffix holds method receiver args) := by
  refine (textArguments_sound method 1 1 h).bind fun texts _ => ?_
  split
  · exact .pure (.bool _)
  · exact .pure (.bool _)

theorem texts_plain (parts : List (List Char)) : (texts parts).Plain := by
  refine .array fun item hmem => ?_
  obtain ⟨part, -, rfl⟩ := List.mem_map.mp hmem
  exact .text _

theorem split_sound (receiver : String) {args : List Value} (h : AllPlain args) :
    Sound Value.Plain (split receiver args) := by
  refine (textArguments_sound .split 0 1 h).bind fun separator _ => ?_
  split
  · exact .pure (texts_plain _)
  · exact .ite (fun _ => .fail rfl) fun _ => .pure (texts_plain _)

theorem replacementLimit_sound (count : Int) : Sound Anything (replacementLimit count) :=
  .ite (fun _ => .fail rfl) fun _ => .ite (fun _ => .pure trivial) fun _ => .pure trivial

theorem replace_sound (receiver : String) {args : List Value} (h : AllPlain args) :
    Sound Value.Plain (replace receiver args) := by
  have htext {value : Value} (hvalue : value.Plain) (htextual : isTextual value) :
      ∃ s, value = .text s := by
    cases hvalue with
    | text s => exact ⟨s, rfl⟩
    | _ => cases htextual
  unfold replace
  dsimp only
  split
  · exact .pure (.text _)
  · exact (replacementLimit_sound _).bind fun _ _ => .pure (.text _)
  · rename_i hpair htriple
    refine .ite (fun hfit => ?_) fun _ => .fail rfl
    unfold fitReplacement at hfit
    split at hfit
    · rename_i old new
      simp only [Bool.and_eq_true] at hfit
      obtain ⟨_, rfl⟩ := htext (h old (by simp)) hfit.1
      obtain ⟨_, rfl⟩ := htext (h new (by simp)) hfit.2
      exact absurd rfl (hpair _ _)
    · rename_i old new _
      simp only [Bool.and_eq_true] at hfit
      obtain ⟨_, rfl⟩ := htext (h old (by simp)) hfit.1
      obtain ⟨_, rfl⟩ := htext (h new (by simp)) hfit.2
      exact absurd rfl (htriple _ _ _)
    · cases hfit

theorem callTextMethod_sound (method : TextMethod) (receiver : String) {args : List Value}
    (h : AllPlain args) : Sound Value.Plain (callTextMethod method receiver args) := by
  cases method with
  | upper | lower | title => exact .pure (.text _)
  | length => exact .pure (.number _)
  | strip | lstrip | rstrip => exact stripWith_sound _ _ receiver h
  | startswith | endswith => exact hasAffix_sound _ _ receiver h
  | split => exact split_sound receiver h
  | replace => exact replace_sound receiver h

theorem itemPairs_plain {fields : Fields Value} (h : PlainFields fields) :
    (itemPairs fields).Plain := by
  refine .array fun item hmem => ?_
  obtain ⟨pair, hpair, rfl⟩ := List.mem_map.mp hmem
  have hparts : AllPlain [.text pair.1, pair.2] :=
    List.forall_mem_cons.mpr ⟨.text _, List.forall_mem_singleton.mpr (h pair hpair)⟩
  exact .array hparts

theorem callObjectMethod_sound (method : ObjectMethod) (address : Address) {args : List Value}
    (h : AllPlain args) : Sound Value.Plain (callObjectMethod method address args) := by
  refine (fieldsOf_sound address).bind fun fields hfields => ?_
  cases method with
  | get =>
    have hfound (key : String) {fallback : Value} (hfallback : fallback.Plain) :
        ((fields.get? key).getD fallback).Plain := by
      cases hget : fields.get? key with
      | none => exact hfallback
      | some value => exact hfields.get? hget
    dsimp only
    split
    · exact .pure (hfound _ .null)
    · exact .pure (hfound _ (h _ (by simp)))
    · exact .pure .null
    · exact .pure (h _ (by simp))
    · exact .fail rfl
  | items => exact .pure (itemPairs_plain hfields)
  | keys =>
    refine .pure (.array fun item hmem => ?_)
    obtain ⟨key, -, rfl⟩ := List.mem_map.mp hmem
    exact .text key
  | values =>
    refine .pure (.array fun item hmem => ?_)
    obtain ⟨pair, hpair, rfl⟩ := List.mem_map.mp hmem
    exact hfields pair hpair

/-! ## Calls -/

/-- The arguments of a call when all of them are plain. -/
structure Arguments.Plain (arguments : Arguments) : Prop where
  positional : AllPlain arguments.positional
  keywords : PlainFields arguments.keywords
  named : arguments.unnamed = []

theorem splitArguments_sound {args : List Value} (h : AllPlain args) :
    Sound Arguments.Plain (splitArguments args) := by
  unfold splitArguments
  split
  · exact (fieldsOf_sound _).bind fun fields hfields =>
      .pure ⟨fun value hmem => h value (List.dropLast_subset _ hmem), hfields, rfl⟩
  · rename_i hlast
    cases h _ (List.mem_of_getLast? hlast)
  · exact .pure ⟨h, nofun, rfl⟩

theorem callNamespace_sound {args : List Value} (h : AllPlain args) :
    Sound Value.Plain (callNamespace args) := by
  unfold callNamespace
  split
  · exact newObject_sound .plain nofun
  · exact (fieldsOf_sound _).bind fun _ hfields => newObject_sound .plain hfields
  · cases h _ List.mem_cons_self
  · exact .fail rfl

theorem progressionValue_sound (start stop step : Int) :
    Sound Value.Plain (progressionValue start stop step) := by
  refine .ite (fun _ => .fail rfl) fun _ => .ite (fun _ => .pure (.array ?_)) fun _ => .fail rfl
  intro item hmem
  obtain ⟨i, -, rfl⟩ := List.mem_map.mp hmem
  exact .number _

/-- Texts have an order. -/
theorem exists_insertSorted (name : String) (sorted : List String) :
    ∃ found : List String,
      Label.insertSorted? (.text name) (sorted.map .text) = some (found.map .text) := by
  induction sorted with
  | nil => exact ⟨[name], rfl⟩
  | cons other rest ih =>
    obtain ⟨found, hfound⟩ := ih
    simp only [List.map_cons, Label.insertSorted?, Label.compare?, Option.bind_eq_bind,
      Option.bind_some, hfound, Option.map_some]
    split
    · exact ⟨name :: other :: rest, rfl⟩
    · exact ⟨other :: found, rfl⟩

theorem exists_sorted (names : List String) :
    ∃ sorted, Label.sorted? (names.map .text) = some sorted := by
  have hfold : ∀ sorted : List String, ∃ found, (names.map Label.text).foldlM
      (fun sorted label => Label.insertSorted? label sorted) (sorted.map Label.text) =
        some found := by
    induction names with
    | nil => exact fun sorted => ⟨sorted.map .text, rfl⟩
    | cons name rest ih =>
      intro sorted
      obtain ⟨next, hnext⟩ := exists_insertSorted name sorted
      obtain ⟨found, hfound⟩ := ih next
      refine ⟨found, ?_⟩
      rw [List.map_cons, List.foldlM_cons, hnext]
      exact hfound
  exact hfold []

theorem callRange_sound {args : List Value} (h : AllPlain args) :
    Sound Value.Plain (callRange args) := by
  refine (splitArguments_sound h).bind fun arguments harguments => ?_
  dsimp only
  refine .ite (fun _ => ?_) fun _ => ?_
  · unfold refuseKeywords
    rw [harguments.named, List.append_nil]
    obtain ⟨sorted, hsorted⟩ := exists_sorted arguments.keywords.keys
    rw [hsorted]
    exact .fail rfl
  · split
    all_goals first
      | exact progressionValue_sound _ _ _
      | exact .fail rfl

theorem callRaiseException_sound (args : List Value) :
    Sound Value.Plain (callRaiseException args) := by
  unfold callRaiseException
  split
  · exact .fail rfl
  · exact .fail rfl
  · exact (displayText_sound _).bind fun _ _ => .fail rfl

theorem call_sound {function : Function} (hfunction : function.Plain) {args : List Value}
    (h : AllPlain args) : Sound Value.Plain (call function args) := by
  cases hfunction with
  | ofText method receiver => exact callTextMethod_sound method receiver h
  | ofArray length => exact .pure (.number _)
  | ofObject method address => exact callObjectMethod_sound method address h
  | builtin builtin =>
    cases builtin with
    | namespace_ => exact callNamespace_sound h
    | range => exact callRange_sound h
    | raiseException => exact callRaiseException_sound args

theorem callValue_sound {callee : Value} (hcallee : callee.Plain) {args : List Value}
    (h : AllPlain args) : Sound Value.Plain (callValue callee args) := by
  cases hcallee with
  | function _ hfunction => exact call_sound hfunction h
  | _ => exact .fail rfl

theorem bundled_sound {positional : List Value} (hpositional : AllPlain positional)
    {keywords : List (Label × Value)} (hkeywords : PlainPairs keywords) :
    Sound AllPlain (bundled positional keywords) := by
  refine .ite (fun _ => .pure hpositional) fun _ => ?_
  refine (newLabelled_sound .keywords hkeywords).bind fun bundle hbundle => .pure ?_
  intro value hmem
  rcases List.mem_append.mp hmem with hmem | hmem
  · exact hpositional value hmem
  · rwa [List.mem_singleton.mp hmem]

/-! ## Filters and tests -/

theorem pickArgument_plain {positional : List Value} (hpositional : AllPlain positional)
    {keywords : Fields Value} (hkeywords : PlainFields keywords) (index : Nat) (name : String)
    {default : Value} (hdefault : default.Plain) :
    (pickArgument positional keywords index name default).Plain := by
  unfold pickArgument
  split
  · rename_i hget
    exact hpositional _ (List.mem_of_getElem? hget)
  · cases hget : keywords.get? name with
    | none => exact hdefault
    | some value => exact hkeywords.get? hget

section Filters

variable {operand : Value} {positional : List Value} {keywords : Fields Value}

theorem defaultTo_sound (hoperand : operand.Plain) (hpositional : AllPlain positional)
    (hkeywords : PlainFields keywords) :
    Sound Value.Plain (defaultTo operand positional keywords) := by
  have hfallback := pickArgument_plain hpositional hkeywords 0 "default_value" (.text "")
  unfold defaultTo
  dsimp only
  split
  · exact .pure hfallback
  · refine (truth_sound _).bind fun alsoFalse _ => (truth_sound _).bind fun holds _ => .pure ?_
    split
    · exact hfallback
    · exact hoperand

theorem indentOf_sound (operand : Value) {indent : Value} (h : indent.Plain) :
    Sound Anything (indentOf operand indent) := by
  cases h with
  | number n =>
    cases n with
    | int i => exact .ite (fun _ => .fail rfl) fun _ => .pure trivial
    | _ => exact .fail rfl
  | array | object | function => exact .fail rfl
  | _ => exact .pure trivial

theorem document_sound (operand : Value) (host : Host) (spaces : Option (List Char)) :
    Sound Value.Plain
      (match (Json.readable spaces).document host with
        | .ok document => pure (.text document)
        | .error .numeralTooLong => Eval.fail .numeralTooLong
        | .error fault =>
          Eval.fail (.cannotSerialize operand.kindName fault.reason) : Eval Value) := by
  split
  · exact .pure (.text _)
  · exact .fail rfl
  · exact .fail rfl

theorem toJson_sound (operand : Value) {indent : Value} (h : indent.Plain) :
    Sound Value.Plain (toJson operand indent) := by
  refine (toHost_sound operand).bind fun host _ => ?_
  dsimp only
  split
  · rename_i s _
    exact document_sound operand (.text s) none
  · exact (indentOf_sound operand h).bind fun spaces _ => document_sound operand host spaces

theorem toText_sound (hoperand : operand.Plain) : Sound Value.Plain (toText operand) := by
  have hdisplay : Sound Value.Plain (do
      let s ← displayText operand
      pure (.text s) : Eval Value) := (displayText_sound operand).bind fun _ _ => .pure (.text _)
  cases hoperand with
  | text | undefined | bool => exact .pure (.text _)
  | _ => exact hdisplay

theorem exists_joined {parts : List (Option String)} (h : ∀ part ∈ parts, part.isSome) :
    ∃ texts, parts.mapM id = some texts := by
  induction parts with
  | nil => exact ⟨[], rfl⟩
  | cons part rest ih =>
    obtain ⟨hpart, hrest⟩ := List.forall_mem_cons.mp h
    obtain ⟨text, rfl⟩ := Option.isSome_iff_exists.mp hpart
    obtain ⟨texts, htexts⟩ := ih hrest
    exact ⟨text :: texts, by simp [List.mapM_cons, htexts]⟩

theorem join_sound {items : List Value} (hitems : AllPlain items) {separator : Value}
    (hseparator : separator.Plain) : Sound Value.Plain (join items separator) := by
  cases hseparator with
  | text s =>
    have hparts : Sound (fun parts => ∀ part ∈ parts, part.isSome) (mapAll joinText? items) := by
      refine .mapAll fun item hmem => ?_
      have hdisplay : Sound (fun part => part.isSome) (do
          let s ← displayText item
          pure (some s) : Eval (Option String)) :=
        (displayText_sound item).bind fun _ _ => .pure rfl
      cases hitems item hmem with
      | text => exact .pure rfl
      | _ => exact hdisplay
    refine hparts.bind fun parts hparts => ?_
    obtain ⟨texts, htexts⟩ := exists_joined hparts
    rw [htexts]
    exact .pure (.text _)
  | _ => exact .fail rfl

theorem filterArray_sound (name : String) {items : List Value} (hitems : AllPlain items)
    (hpositional : AllPlain positional) (hkeywords : PlainFields keywords) :
    Sound Value.Plain (filterArray name items positional keywords) := by
  have hend {found : Option Value} (h : ∀ item ∈ found, item.Plain) :
      (found.getD .undefined).Plain := by
    cases found with
    | none => exact .undefined
    | some item => exact h item rfl
  unfold filterArray
  split
  · exact .pure (.array hitems)
  · refine .pure (hend fun item hitem => ?_)
    exact hitems item (List.mem_of_mem_head? hitem)
  · refine .pure (hend fun item hitem => ?_)
    exact hitems item (List.mem_of_getLast? hitem)
  · exact .pure (.number _)
  · exact .pure (.number _)
  · exact .pure (.array fun item hmem => hitems item (List.mem_reverse.mp hmem))
  · exact .fail rfl
  · exact join_sound hitems (pickArgument_plain hpositional hkeywords 0 "d" (.text ""))
  · exact .fail rfl

theorem filterText_sound (name s : String) : Sound Value.Plain (filterText name s) := by
  unfold filterText
  split
  all_goals first
    | exact .pure (.text _)
    | exact .pure (.number _)
    | exact .fail rfl

theorem filterObject_sound (name : String) (kind : ObjectKind) (address : Address) :
    Sound Value.Plain (filterObject name kind address) := by
  refine (fieldsOf_sound address).bind fun fields hfields => ?_
  split
  · exact .pure (itemPairs_plain hfields)
  · exact .pure (.number _)
  · exact .pure (.number _)
  · exact .fail rfl

theorem applyBuiltinFilter_sound (name : String) (hoperand : operand.Plain)
    (hpositional : AllPlain positional) (hkeywords : PlainFields keywords) :
    Sound Value.Plain (applyBuiltinFilter name operand positional keywords) := by
  unfold applyBuiltinFilter
  split
  · exact defaultTo_sound hoperand hpositional hkeywords
  · exact defaultTo_sound hoperand hpositional hkeywords
  · exact toJson_sound operand (pickArgument_plain hpositional hkeywords 0 "indent" .null)
  · exact toText_sound hoperand
  · cases hoperand with
    | array hitems => exact filterArray_sound name hitems hpositional hkeywords
    | text s => exact filterText_sound name s
    | number n => exact .ite (fun _ => ofNumber_sound _) fun _ => .fail rfl
    | object kind address => exact filterObject_sound name kind address
    | _ => exact .fail rfl

/-- There are no filters of the host. -/
theorem context_sound : Sound (·.filters = []) context := fun _ _ hfilters hs => ⟨hfilters, hs⟩

theorem applyFilter_sound (name : String) (hoperand : operand.Plain) {args : List Value}
    (hargs : AllPlain args) : Sound Value.Plain (applyFilter name operand args) := by
  refine (splitArguments_sound hargs).bind fun arguments harguments => ?_
  refine context_sound.bind fun context hfilters => ?_
  rw [hfilters]
  exact applyBuiltinFilter_sound name hoperand harguments.positional harguments.keywords

end Filters

theorem equality_sound (value : Value) (args : List Value) :
    Sound Anything (match args with
      | [other] => equal value other
      | _ => fail (.equalityTest args.length)) := by
  split
  · exact equal_sound _ _
  · exact .fail rfl

theorem applyTest_sound (test : Test) {value : Value} (h : value.Plain) (args : List Value) :
    Sound Anything (applyTest test value args) := by
  have hparity (test : Test) (remainder : Int) :
      Sound Anything (hasParity test remainder value) := by
    unfold hasParity
    split
    · exact .pure trivial
    · exact .fail rfl
  -- The only faults besides those are of labels.
  unfold applyTest
  split
  all_goals first
    | exact .pure trivial
    | exact hparity _ _
    | exact equality_sound value args
    | cases h

end TextTemplate.Eval
