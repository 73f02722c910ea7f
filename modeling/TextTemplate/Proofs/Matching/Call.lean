import TextTemplate.Eval.Evaluate
import TextTemplate.Proofs.Matching.Operator

/-!
# Members and calls on values that are alike

What a function answers may depend on its arguments, but not on the addresses and marks in them. Of
host functions that is assumed.
-/

namespace TextTemplate.Eval

open List (Forall₂)

variable {w : Matching} {value value' : Value} {args args' : List Value}

/-! ## Members -/

theorem method_alike (h : Value.Alike w value value') (name : String) :
    RunsAlike w (Value.Alike w) (method value name) (method value' name) := by
  cases h with
  | text s =>
    simp only [method]
    split
    · exact newFunction_alike (.ofText _ s)
    · exact .pure .undefined
  | array h =>
    simp only [method, h.length_eq]
    exact .ite (fun _ => newFunction_alike (.ofArray _)) fun _ => .pure .undefined
  | object kind h =>
    simp only [method]
    split
    · exact newFunction_alike (.ofObject _ h)
    · exact .pure .undefined
  | _ => exact .pure .undefined

theorem itemAt_alike (type : String) (length : Nat) (index : Int) {item item' : Option Value}
    (h : Option.Rel (Value.Alike w) item item') :
    RunsAlike w (Value.Alike w) (itemAt type length index item)
      (itemAt type length index item') := by
  cases h with
  | some h => exact .pure h
  | none =>
    simp only [itemAt]
    split <;> exact .fail _

theorem member_alike {property property' : Value} (h : Value.Alike w value value')
    (h' : Value.Alike w property property') :
    RunsAlike w (Value.Alike w) (member value property) (member value' property') := by
  have hother : RunsAlike w (Value.Alike w) (fail (.cannotAccess value.kindName property.kindName))
      (fail (.cannotAccess value'.kindName property'.kindName)) :=
    fail_alike (by rw [h.kindName, h'.kindName])
  have hmethod := method_alike h
  cases h with
  | object kind hab =>
    cases h' with
    | text key =>
      refine (fieldsOf_alike hab).bind fun fields fields' hfields => ?_
      have hfound := Fields.get?_rel hfields key
      generalize Fields.get? fields key = found at hfound
      generalize Fields.get? fields' key = found' at hfound
      cases hfound with
      | some hvalue => exact .pure hvalue
      | none => exact hmethod key
    | _ => exact hother
  | array hitems =>
    cases h' with
    | text key => exact hmethod key
    | number h' =>
      cases h' with
      | int index =>
        simp only [member, hitems.length_eq]
        exact itemAt_alike _ _ _ (at?_rel hitems index)
      | _ => exact hother
    | _ => exact hother
  | text s =>
    cases h' with
    | text key => exact hmethod key
    | number h' =>
      cases h' with
      | int index =>
        refine itemAt_alike _ _ _ ?_
        cases Sequence.at? s.toList index with
        | none => exact .none
        | some c => exact .some (.text _)
      | _ => exact hother
    | _ => exact hother
  | _ => cases h' <;> exact hother

theorem memberByLabel_alike (h : Value.Alike w value value') (name : String) :
    RunsAlike w (Value.Alike w) (memberByLabel value (some (.text name)))
      (memberByLabel value' (some (.text name))) :=
  member_alike h (.text name)

theorem isSequence_eq (h : Value.Alike w value value') : isSequence value = isSequence value' := by
  cases h <;> rfl

theorem sliceBound_alike (h : Value.Alike w value value') :
    RunsAlike w Eq (sliceBound value) (sliceBound value') := by
  have hother : RunsAlike w (Eq (α := Option Int)) (fail (.sliceBound value.kindName))
      (fail (.sliceBound value'.kindName)) := fail_alike (by rw [h.kindName])
  cases h with
  | number h =>
    cases h with
    | int i => exact .pure rfl
    | _ => exact hother
  | null => exact .pure rfl
  | undefined => exact .pure rfl
  | _ => exact hother

theorem slice_alike (h : Value.Alike w value value') (start stop step : Option Int) :
    RunsAlike w (Value.Alike w) (slice value start stop step) (slice value' start stop step) := by
  have hother : RunsAlike w (Value.Alike w) (fail (.sliceOfNonSequence value.kindName))
      (fail (.sliceOfNonSequence value'.kindName)) := fail_alike (by rw [h.kindName])
  refine .ite (fun _ => .fail _) fun _ => ?_
  cases h with
  | array h => exact .pure (.array (forall₂_slice h _ _ _))
  | text s => exact .pure (.text _)
  | _ => exact hother

/-! ## Methods -/

theorem textArguments_alike (method : TextMethod) (least most : Nat) (args : List Value) :
    RunsAlike w Eq (textArguments method least most args)
      (textArguments method least most args) := by
  have hcheck : RunsAlike w Eq (checkTextual method least most args)
      (checkTextual method least most args) :=
    .ite (fun _ => .pure rfl) fun _ => .fail _
  refine hcheck.bind fun _ _ _ => ?_
  split
  · exact .pure rfl
  · exact .fail _

theorem stripWith_alike (strip : (Char → Bool) → List Char → List Char) (method : TextMethod)
    (receiver : String) (args : List Value) :
    RunsAlike w (Value.Alike w) (stripWith strip method receiver args)
      (stripWith strip method receiver args) := by
  refine (textArguments_alike method 0 1 args).bind fun texts _ htexts => ?_
  subst htexts
  cases texts <;> exact .pure (.text _)

theorem hasAffix_alike (holds : List Char → List Char → Bool) (method : TextMethod)
    (receiver : String) (args : List Value) :
    RunsAlike w (Value.Alike w) (hasAffix holds method receiver args)
      (hasAffix holds method receiver args) := by
  refine (textArguments_alike method 1 1 args).bind fun texts _ htexts => ?_
  subst htexts
  cases texts <;> exact .pure (.bool _)

theorem texts_alike (parts : List (List Char)) : Value.Alike w (texts parts) (texts parts) := by
  refine .array ?_
  induction parts with
  | nil => exact .nil
  | cons part _ ih => exact .cons (.text _) ih

theorem split_alike (receiver : String) (args : List Value) :
    RunsAlike w (Value.Alike w) (split receiver args) (split receiver args) := by
  refine (textArguments_alike .split 0 1 args).bind fun separator _ hseparator => ?_
  subst hseparator
  cases separator with
  | nil => exact .pure (texts_alike _)
  | cons separator _ => exact .ite (fun _ => .fail _) fun _ => .pure (texts_alike _)

theorem replacementLimit_alike (count : Int) :
    RunsAlike w Eq (replacementLimit count) (replacementLimit count) := by
  unfold replacementLimit
  exact .ite (fun _ => .fail _) fun _ => .ite (fun _ => .pure rfl) fun _ => .pure rfl

theorem replace_alike (receiver : String) (args : List Value) :
    RunsAlike w (Value.Alike w) (replace receiver args) (replace receiver args) := by
  unfold replace
  split
  · exact .pure (.text _)
  · exact (replacementLimit_alike _).bind fun _ _ hlimit => .pure (hlimit ▸ .text _)
  · exact .ite (fun _ => .fail _) fun _ => .fail _

/-- What a method of a text answers holds no addresses and no marks. -/
theorem callTextMethod_self_alike (method : TextMethod) (receiver : String) (args : List Value) :
    RunsAlike w (Value.Alike w) (callTextMethod method receiver args)
      (callTextMethod method receiver args) := by
  cases method with
  | upper => exact .pure (.text _)
  | lower => exact .pure (.text _)
  | title => exact .pure (.text _)
  | length => exact .pure (.number (.int _))
  | strip => exact stripWith_alike _ _ _ args
  | lstrip => exact stripWith_alike _ _ _ args
  | rstrip => exact stripWith_alike _ _ _ args
  | startswith => exact hasAffix_alike _ _ _ args
  | endswith => exact hasAffix_alike _ _ _ args
  | split => exact split_alike _ args
  | replace => exact replace_alike _ args

theorem callTextMethod_alike (method : TextMethod) (receiver : String)
    (h : Forall₂ (Value.Alike w) args args') :
    RunsAlike w (Value.Alike w) (callTextMethod method receiver args)
      (callTextMethod method receiver args') := by
  rw [callTextMethod_congr method receiver (forall₂_resembles h)]
  exact callTextMethod_self_alike method receiver args'

theorem itemPairs_alike {fields fields' : Fields Value}
    (h : Forall₂ (Keyed (Value.Alike w)) fields fields') :
    Value.Alike w (itemPairs fields) (itemPairs fields') := by
  refine .array ?_
  induction h with
  | nil => exact .nil
  | cons hpair _ ih =>
    obtain ⟨key, hvalue⟩ := hpair
    exact .cons (.array (.cons (.text key) (.cons hvalue .nil))) ih

theorem keyTexts_alike (keys : List String) :
    Forall₂ (Value.Alike w) (keys.map .text) (keys.map .text) := by
  induction keys with
  | nil => exact .nil
  | cons key _ ih => exact .cons (.text key) ih

theorem getD_alike {found found' : Option Value} (h : Option.Rel (Value.Alike w) found found')
    {fallback fallback' : Value} (hfallback : Value.Alike w fallback fallback') :
    Value.Alike w (found.getD fallback) (found'.getD fallback') := by
  cases h with
  | some h => exact h
  | none => exact hfallback

theorem callObjectMethod_alike (method : ObjectMethod) {a b : Address} (hab : w.objects a b)
    (h : Forall₂ (Value.Alike w) args args') :
    RunsAlike w (Value.Alike w) (callObjectMethod method a args)
      (callObjectMethod method b args') := by
  refine (fieldsOf_alike hab).bind fun fields fields' hfields => ?_
  have hother : RunsAlike w (Value.Alike w) (fail (.getArguments (kindNames args)))
      (fail (.getArguments (kindNames args'))) :=
    fail_alike (by simp only [kindNames, kindNames_eq h])
  cases method with
  | get =>
    cases h with
    | nil => exact hother
    | cons hkey hrest =>
      cases hkey with
      | text key =>
        have hfound := Fields.get?_rel hfields key
        cases hrest with
        | nil => exact .pure (getD_alike hfound .null)
        | cons hfallback hrest =>
          cases hrest with
          | nil => exact .pure (getD_alike hfound hfallback)
          | cons _ _ => exact hother
      | _ => exact hother
  | items => exact .pure (itemPairs_alike hfields)
  | keys =>
    simp only [Fields.keys_eq hfields]
    exact .pure (.array (keyTexts_alike _))
  | values => exact .pure (.array (Fields.values_rel hfields))

/-! ## Functions of the template -/

/-- Arguments that are alike. All keywords are texts. -/
structure Arguments.Alike (w : Matching) (a b : Arguments) : Prop where
  positional : Forall₂ (Value.Alike w) a.positional b.positional
  keywords : Forall₂ (Keyed (Value.Alike w)) a.keywords b.keywords
  unnamed : a.unnamed = []
  unnamed' : b.unnamed = []

theorem splitArguments_alike (h : Forall₂ (Value.Alike w) args args') :
    RunsAlike w (Arguments.Alike w) (splitArguments args) (splitArguments args') := by
  have hother : RunsAlike w (Arguments.Alike w) (pure ⟨args, [], []⟩) (pure ⟨args', [], []⟩) :=
    .pure ⟨h, .nil, rfl, rfl⟩
  have hlast := forall₂_getLast? h
  unfold splitArguments
  generalize args.getLast? = last at hlast
  generalize args'.getLast? = last' at hlast
  cases hlast with
  | none => exact hother
  | some hlast =>
    cases hlast with
    | object kind hab =>
      cases kind with
      | plain => exact hother
      | keywords =>
        exact (fieldsOf_alike hab).bind fun _ _ hfields =>
          .pure ⟨forall₂_dropLast h, hfields, rfl, rfl⟩
    | _ => exact hother

theorem callNamespace_alike (h : Forall₂ (Value.Alike w) args args') :
    RunsAlike w (Value.Alike w) (callNamespace args) (callNamespace args') := by
  have hother : RunsAlike w (Value.Alike w) (fail (.namespaceArguments (kindNames args)))
      (fail (.namespaceArguments (kindNames args'))) :=
    fail_alike (by simp only [kindNames, kindNames_eq h])
  cases h with
  | nil => exact newObject_alike .plain .nil
  | cons hfirst hrest =>
    cases hfirst with
    | object kind hab =>
      cases hrest with
      | nil => exact (fieldsOf_alike hab).bind fun _ _ hfields => newObject_alike .plain hfields
      | cons _ _ => exact hother
    | _ => exact hother

theorem progressionValue_alike (start stop step : Int) :
    RunsAlike w (Value.Alike w) (progressionValue start stop step)
      (progressionValue start stop step) := by
  unfold progressionValue
  refine .ite (fun _ => .fail _) fun _ => .ite (fun _ => .pure (.array ?_)) fun _ => .fail _
  induction Sequence.progression start stop step with
  | nil => exact .nil
  | cons i _ ih => exact .cons (.number (.int i)) ih

theorem any_keywords_eq (p : String → Bool) {fields fields' : Fields Value}
    (h : Forall₂ (Keyed (Value.Alike w)) fields fields') :
    (fields.any fun pair => p pair.1) = fields'.any fun pair => p pair.1 := by
  induction h with
  | nil => rfl
  | cons hpair _ ih =>
    obtain ⟨key, _⟩ := hpair
    simp only [List.any_cons, ih]

theorem callRange_alike (h : Forall₂ (Value.Alike w) args args') :
    RunsAlike w (Value.Alike w) (callRange args) (callRange args') := by
  refine (splitArguments_alike h).bind fun arguments arguments' harguments => ?_
  obtain ⟨positional, keywords, unnamed⟩ := arguments
  obtain ⟨positional', keywords', unnamed'⟩ := arguments'
  obtain ⟨hpositional, hkeywords, rfl, rfl⟩ := harguments
  dsimp only at hpositional hkeywords ⊢
  have hvalues := List.rel_append hpositional (Fields.values_rel hkeywords)
  simp only [any_keywords_eq (· != "step") hkeywords, forall₂_isEmpty hkeywords,
    hpositional.length_eq]
  refine .ite (fun _ => ?_) fun _ => ?_
  · simp only [refuseKeywords, Fields.keys_eq hkeywords]
    split <;> exact .fail _
  · have hkinds : kindNames (positional ++ keywords.values) =
        kindNames (positional' ++ keywords'.values) := kindNames_eq hvalues
    simp only [allIntegers?_congr (forall₂_resembles hvalues), hkinds]
    split <;> first
      | exact progressionValue_alike _ _ _
      | exact .fail _

theorem callRaiseException_alike (h : Forall₂ (Value.Alike w) args args') :
    RunsAlike w (Value.Alike w) (callRaiseException args) (callRaiseException args') := by
  cases h with
  | nil => exact .fail _
  | cons hfirst _ =>
    have hother := (displayText_alike hfirst).bind fun message message' hmessage =>
      fail_alike (congrArg Fault.raised hmessage) (w := w) (R := Value.Alike w)
    cases hfirst with
    | text message => exact .fail _
    | _ => exact hother

theorem callBuiltin_alike (builtin : Builtin) (h : Forall₂ (Value.Alike w) args args') :
    RunsAlike w (Value.Alike w) (callBuiltin builtin args) (callBuiltin builtin args') := by
  cases builtin with
  | namespace_ => exact callNamespace_alike h
  | range => exact callRange_alike h
  | raiseException => exact callRaiseException_alike h

/-! ## Functions of the host -/

/-- Calls of host functions that go alike. -/
abbrev CallsAlike (w : Matching) (x y : HostFunction → List Host → Fields Host → Eval Host) :
    Prop :=
  ∀ {f g : HostFunction} {args args' : List Host} {keywords keywords' : Fields Host},
    HostFunction.Alike w f g → Forall₂ (Host.Alike w) args args' →
      Forall₂ (Keyed (Host.Alike w)) keywords keywords' →
        RunsAlike w (Host.Alike w) (x f args keywords) (y g args' keywords')

theorem callWithArguments_alike {x y : HostFunction → List Host → Fields Host → Eval Host}
    (hcall : CallsAlike w x y) {f g : HostFunction} (hf : HostFunction.Alike w f g)
    {arguments arguments' : Arguments} (h : Arguments.Alike w arguments arguments') :
    RunsAlike w (Value.Alike w) (callWithArguments x f arguments)
      (callWithArguments y g arguments') := by
  have hkeyword (pair pair' : String × Value) (hpair : Keyed (Value.Alike w) pair pair') :
      RunsAlike w (Keyed (Host.Alike w))
        (toHost pair.2 >>= fun host => pure (pair.1, host))
        (toHost pair'.2 >>= fun host => pure (pair'.1, host)) := by
    obtain ⟨key, hvalue⟩ := hpair
    exact (toHost_alike hvalue).bind fun _ _ hhost => .pure (.mk key hhost)
  refine (RunsAlike.mapAll h.keywords hkeyword).bind fun _ _ hkeywords => ?_
  refine (RunsAlike.mapAll h.positional fun _ _ hvalue => toHost_alike hvalue).bind
    fun _ _ hpositional => ?_
  simp only [h.unnamed, h.unnamed']
  exact (hcall hf hpositional hkeywords).bind fun _ _ hanswer => fromHost_alike hanswer

theorem callWith_alike {x y : HostFunction → List Host → Fields Host → Eval Host}
    (hcall : CallsAlike w x y) {f g : Function} (hf : Function.Alike w f g)
    (h : Forall₂ (Value.Alike w) args args') :
    RunsAlike w (Value.Alike w) (callWith x f args) (callWith y g args') := by
  cases hf with
  | ofText method receiver => exact callTextMethod_alike method receiver h
  | ofArray length => exact .pure (.number (.int _))
  | ofObject method hab => exact callObjectMethod_alike method hab h
  | builtin builtin => exact callBuiltin_alike builtin h
  | host hf =>
    exact (splitArguments_alike h).bind fun _ _ harguments =>
      callWithArguments_alike hcall hf harguments

theorem perform_alike {x y : HostFunction → List Host → Eval Host}
    (hcall : ∀ {f g : HostFunction} {args args' : List Host}, HostFunction.Alike w f g →
      Forall₂ (Host.Alike w) args args' → RunsAlike w (Host.Alike w) (x f args) (y g args'))
    {action action' : HostAction} (h : HostAction.Alike w action action') :
    RunsAlike w (Host.Alike w) (perform x action) (perform y action') := by
  induction h with
  | answer h => exact .pure h
  | fail message => exact .fail _
  | call hf hargs _ ih => exact (hcall hf hargs).bind fun answer answer' h => ih answer answer' h

/-- By induction on how deep host functions may call each other. -/
theorem callHostWithin_alike (depth : Nat) :
    CallsAlike w (callHostWithin depth) (callHostWithin depth) := by
  induction depth with
  | zero => exact fun _ _ _ => .fail _
  | succ depth ih =>
    intro f g args args' keywords keywords' hf hargs hkeywords
    cases hf with
    | named name =>
      exact .ofContext fun context hcontext =>
        perform_alike (fun hf hargs => ih hf hargs .nil) (hcontext.library name hargs hkeywords)
    | template hf =>
      simp only [callHostWithin, forall₂_isEmpty hkeywords]
      refine .ite (fun _ => ?_) fun _ => .fail _
      exact (RunsAlike.mapAll hargs fun _ _ harg => fromHost_alike harg).bind fun _ _ hvalues =>
        (callWith_alike ih hf hvalues).bind fun _ _ hanswer => toHost_alike hanswer

theorem callHost_alike : CallsAlike w callHost callHost := fun hf hargs hkeywords =>
  .ofContext fun context _ => callHostWithin_alike context.callDepth hf hargs hkeywords

theorem callValue_alike (hcallee : Value.Alike w value value')
    (h : Forall₂ (Value.Alike w) args args') :
    RunsAlike w (Value.Alike w) (callValue value args) (callValue value' args') := by
  have hother : RunsAlike w (Value.Alike w) (fail (.notCallable value.kindName))
      (fail (.notCallable value'.kindName)) := fail_alike (by rw [hcallee.kindName])
  cases hcallee with
  | function _ hf => exact callWith_alike callHost_alike hf h
  | _ => exact hother

end TextTemplate.Eval
