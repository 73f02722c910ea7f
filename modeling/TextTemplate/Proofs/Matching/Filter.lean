import TextTemplate.Eval.Evaluate
import TextTemplate.Proofs.Matching.Call

/-!
# Filters, tests and the parts of statements in two runs
-/

namespace TextTemplate.Eval

open List (Forall₂)

variable {w : Matching} {value value' : Value} {args args' : List Value}
  {keywords keywords' : Fields Value}

/-! ## Filters -/

theorem pickArgument_alike (hargs : Forall₂ (Value.Alike w) args args')
    (hkeywords : Forall₂ (Keyed (Value.Alike w)) keywords keywords') (index : Nat) (name : String)
    {fallback fallback' : Value} (hfallback : Value.Alike w fallback fallback') :
    Value.Alike w (pickArgument args keywords index name fallback)
      (pickArgument args' keywords' index name fallback') := by
  have hfound := forall₂_getElem? hargs index
  unfold pickArgument
  generalize args[index]? = found at hfound
  generalize args'[index]? = found' at hfound
  cases hfound with
  | some h => exact h
  | none => exact getD_alike (Fields.get?_rel hkeywords name) hfallback

theorem defaultTo_alike (h : Value.Alike w value value')
    (hargs : Forall₂ (Value.Alike w) args args')
    (hkeywords : Forall₂ (Keyed (Value.Alike w)) keywords keywords') :
    RunsAlike w (Value.Alike w) (defaultTo value args keywords)
      (defaultTo value' args' keywords') := by
  have hfallback := pickArgument_alike hargs hkeywords 0 "default_value" (.text "")
  have hboolean := pickArgument_alike hargs hkeywords 1 "boolean" (.bool false)
  have hchoice (falsy : Bool) :
      Value.Alike w
        (if falsy then pickArgument args keywords 0 "default_value" (.text "") else value)
        (if falsy then pickArgument args' keywords' 0 "default_value" (.text "") else value') := by
    cases falsy with
    | true => exact hfallback
    | false => exact h
  have hholds := truth_alike h
  cases h with
  | undefined => exact .pure hfallback
  | _ =>
    refine (truth_alike hboolean).bind fun alsoFalse _ hsame => ?_
    refine hholds.bind fun holds _ hsame' => ?_
    subst hsame hsame'
    exact .pure (hchoice (alsoFalse && !holds))

theorem indentOf_alike (h : Value.Alike w value value') {indent indent' : Value}
    (hindent : Value.Alike w indent indent') :
    RunsAlike w Eq (indentOf value indent) (indentOf value' indent') := by
  have hrefuse (type : String) :
      RunsAlike w Eq (indentOf.refuse value type) (indentOf.refuse value' type) :=
    fail_alike (by rw [h.kindName])
  have hspaces (i : Int) : RunsAlike w Eq (indentOf.spaces i) (indentOf.spaces i) :=
    .ite (fun _ => .fail _) fun _ => .pure rfl
  cases hindent with
  | number hnumber =>
    cases hnumber with
    | int i => exact hspaces i
    | _ => exact hrefuse _
  | null | undefined | text | bool => exact .pure rfl
  | _ => exact hrefuse _

theorem document_alike (h : Value.Alike w value value') {host host' : Host}
    (hhost : Host.Alike w host host') (spaces spaces' : Option (List Char))
    (hspaces : spaces = spaces') :
    RunsAlike w (Value.Alike w)
      (match (Json.readable spaces).document host with
        | .ok document => pure (.text document)
        | .error .numeralTooLong => fail .numeralTooLong
        | .error fault => fail (.cannotSerialize value.kindName fault.reason))
      (match (Json.readable spaces').document host' with
        | .ok document => pure (.text document)
        | .error .numeralTooLong => fail .numeralTooLong
        | .error fault => fail (.cannotSerialize value'.kindName fault.reason)) := by
  subst hspaces
  rw [(Json.readable spaces).document_eq hhost, h.kindName]
  split
  · exact .pure (.text _)
  · exact .fail _
  · exact .fail _

theorem toJson_alike (h : Value.Alike w value value') {indent indent' : Value}
    (hindent : Value.Alike w indent indent') :
    RunsAlike w (Value.Alike w) (toJson value indent) (toJson value' indent') := by
  refine (toHost_alike h).bind fun host host' hhost => ?_
  have hindented := indentOf_alike h hindent
  have hrest := document_alike h hhost
  cases hhost with
  | text s => exact (RunsAlike.pure rfl).bind hrest
  | _ => exact hindented.bind hrest

theorem toText_alike (h : Value.Alike w value value') :
    RunsAlike w (Value.Alike w) (toText value) (toText value') := by
  have hshown := displayText_alike h
  cases h with
  | text s => exact .pure (.text s)
  | undefined => exact .pure (.text _)
  | bool b => exact .pure (.text _)
  | _ => exact hshown.bind fun _ _ hs => .pure (hs ▸ .text _)

theorem joinText?_alike (h : Value.Alike w value value') :
    RunsAlike w Eq (joinText? value) (joinText? value') := by
  have hshown := displayText_alike h
  cases h with
  | text s => exact .pure rfl
  | _ => exact hshown.bind fun _ _ hs => .pure (congrArg some hs)

theorem join_alike {items items' : List Value} (hitems : Forall₂ (Value.Alike w) items items')
    (h : Value.Alike w value value') :
    RunsAlike w (Value.Alike w) (join items value) (join items' value') := by
  have hother : RunsAlike w (Value.Alike w) (fail (.joinSeparator value.kindName))
      (fail (.joinSeparator value'.kindName)) := fail_alike (by rw [h.kindName])
  cases h with
  | text s =>
    refine (RunsAlike.mapAll hitems fun _ _ hitem => joinText?_alike hitem).bind
      fun parts parts' hparts => ?_
    obtain rfl := List.forall₂_eq_eq_eq ▸ hparts
    split
    · exact .pure (.text _)
    · exact .fail _
  | _ => exact hother

theorem filterArray_alike (name : String) {items items' : List Value}
    (hitems : Forall₂ (Value.Alike w) items items') (hargs : Forall₂ (Value.Alike w) args args')
    (hkeywords : Forall₂ (Keyed (Value.Alike w)) keywords keywords') :
    RunsAlike w (Value.Alike w) (filterArray name items args keywords)
      (filterArray name items' args' keywords') := by
  have hlength : RunsAlike w (Value.Alike w) (pure (.ofNat items.length))
      (pure (.ofNat items'.length)) := .pure (hitems.length_eq ▸ .number (.int _))
  have hjoin := join_alike hitems (pickArgument_alike hargs hkeywords 0 "d" (.text ""))
  unfold filterArray
  split
  · exact .pure (.array hitems)
  · refine .pure (getD_alike ?_ .undefined)
    cases hitems with
    | nil => exact .none
    | cons hfirst _ => exact .some hfirst
  · exact .pure (getD_alike (forall₂_getLast? hitems) .undefined)
  · exact hlength
  · exact hlength
  · exact .pure (.array (List.rel_reverse hitems))
  · exact .fail _
  · exact hjoin
  · exact .fail _

theorem filterText_alike (name s : String) :
    RunsAlike w (Value.Alike w) (filterText name s) (filterText name s) := by
  unfold filterText
  split <;> first
    | exact .pure (.number (.int _))
    | exact .pure (.text _)
    | exact .fail _

theorem filterObject_alike (name : String) (kind : ObjectKind) {a b : Address}
    (hab : w.objects a b) :
    RunsAlike w (Value.Alike w) (filterObject name kind a) (filterObject name kind b) := by
  refine (fieldsOf_alike hab).bind fun fields fields' hfields => ?_
  split
  · exact .pure (itemPairs_alike hfields)
  · exact .pure (hfields.length_eq ▸ .number (.int _))
  · exact .pure (hfields.length_eq ▸ .number (.int _))
  · exact fail_alike (by rw [(Value.Alike.object kind hab).kindName])

theorem applyBuiltinFilter_alike (name : String) (h : Value.Alike w value value')
    (hargs : Forall₂ (Value.Alike w) args args')
    (hkeywords : Forall₂ (Keyed (Value.Alike w)) keywords keywords') :
    RunsAlike w (Value.Alike w) (applyBuiltinFilter name value args keywords)
      (applyBuiltinFilter name value' args' keywords') := by
  have hdefault := defaultTo_alike h hargs hkeywords
  have hjson := toJson_alike h (pickArgument_alike hargs hkeywords 0 "indent" .null)
  have htext := toText_alike h
  have hother : RunsAlike w (Value.Alike w) (fail (.unknownFilter name value.kindName))
      (fail (.unknownFilter name value'.kindName)) := fail_alike (by rw [h.kindName])
  unfold applyBuiltinFilter
  split
  · exact hdefault
  · exact hdefault
  · exact hjson
  · exact htext
  · cases h with
    | array hitems => exact filterArray_alike name hitems hargs hkeywords
    | text s => exact filterText_alike name s
    | number hnumber => exact .ite (fun _ => ofNumber_alike hnumber.abs) fun _ => hother
    | object kind hab => exact filterObject_alike name kind hab
    | _ => exact hother

theorem applyFilter_alike (name : String) (h : Value.Alike w value value')
    (hargs : Forall₂ (Value.Alike w) args args') :
    RunsAlike w (Value.Alike w) (applyFilter name value args) (applyFilter name value' args') := by
  refine (splitArguments_alike hargs).bind fun arguments arguments' harguments => ?_
  refine .ofContext fun context hcontext => ?_
  have hfound := Fields.get?_rel hcontext.filters name
  have hbuiltin := applyBuiltinFilter_alike name h harguments.positional harguments.keywords
  cases hfilter : Fields.get? context.filters name with
  | none => exact hbuiltin
  | some filter =>
    rw [hfilter] at hfound
    cases hfound with
    | some hf =>
      exact callWithArguments_alike callHost_alike hf
        ⟨.cons h harguments.positional, harguments.keywords, harguments.unnamed,
          harguments.unnamed'⟩

/-! ## Tests -/

theorem hasParity_alike (test : Test) (remainder : Int) (h : Value.Alike w value value') :
    RunsAlike w Eq (hasParity test remainder value) (hasParity test remainder value') := by
  have hother : RunsAlike w (Eq (α := Bool)) (fail (.parityTest test.name value.kindName))
      (fail (.parityTest test.name value'.kindName)) := fail_alike (by rw [h.kindName])
  cases h with
  | number hnumber =>
    cases hnumber with
    | int i => exact .pure rfl
    | _ => exact hother
  | _ => exact hother

theorem applyTest_alike (test : Test) (h : Value.Alike w value value')
    (hargs : Forall₂ (Value.Alike w) args args') :
    RunsAlike w Eq (applyTest test value args) (applyTest test value' args') := by
  have hodd := hasParity_alike .odd 1 h
  have heven := hasParity_alike .even 0 h
  have hequal : RunsAlike w Eq (applyTest .equalto value args)
      (applyTest .equalto value' args') := by
    cases hargs with
    | nil => cases h <;> exact .fail _
    | cons hfirst hrest =>
      have hfirst := equal_alike h hfirst
      cases hrest with
      | nil => cases h <;> exact hfirst
      | cons _ hrest => cases h <;> exact fail_alike (by simp [hrest.length_eq])
  have hinteger : RunsAlike w Eq (applyTest .integer value args)
      (applyTest .integer value' args') := by
    cases h with
    | number hnumber => cases hnumber <;> exact .pure rfl
    | _ => exact .pure rfl
  cases test with
  | odd => cases h <;> exact hodd
  | even => cases h <;> exact heven
  | equalto => exact hequal
  | integer => exact hinteger
  | _ => cases h <;> exact .pure rfl

/-! ## Statements -/

theorem contribution_alike (statement : Node) (h : Value.Alike w value value') :
    RunsAlike w Eq (contribution statement value) (contribution statement value') := by
  have hother : RunsAlike w (Eq (α := Option String)) (fail (.cannotRender value.kindName))
      (fail (.cannotRender value'.kindName)) := fail_alike (by rw [h.kindName])
  cases h with
  | null => exact .pure rfl
  | undefined =>
    refine .ofContext fun context _ => .ite (fun _ => ?_) fun _ => .pure rfl
    split <;> exact .fail _
  | number hnumber =>
    exact (numeral_alike hnumber).bind fun _ _ hs => .pure (congrArg some hs)
  | text s => exact .pure rfl
  | _ => exact hother

theorem assignField_alike (h : Value.Alike w value value') (key : String) {item item' : Value}
    (hitem : Value.Alike w item item') :
    RunsAlike w Eq (assignField value key item) (assignField value' key item') := by
  have hother : RunsAlike w (Eq (α := Unit)) (fail (.memberOfNonObject value.kindName))
      (fail (.memberOfNonObject value'.kindName)) := fail_alike (by rw [h.kindName])
  cases h with
  | object kind hab => exact .withMemory fun _ _ hmemory => ⟨rfl, hmemory.setField hab key hitem⟩
  | _ => exact hother

theorem loopFields_alike (length index : Nat) {previous previous' next next' : Value}
    (hprevious : Value.Alike w previous previous') (hnext : Value.Alike w next next') :
    Forall₂ (Keyed (Value.Alike w)) (loopFields length index previous next)
      (loopFields length index previous' next') := by
  refine .cons (.mk _ (.number (.int _))) (.cons (.mk _ (.number (.int _))) ?_)
  refine .cons (.mk _ (.number (.int _))) (.cons (.mk _ (.number (.int _))) ?_)
  refine .cons (.mk _ (.bool _)) (.cons (.mk _ (.bool _)) (.cons (.mk _ (.number (.int _))) ?_))
  exact .cons (.mk _ hprevious) (.cons (.mk _ hnext) .nil)

theorem bundled_alike (hargs : Forall₂ (Value.Alike w) args args')
    {pairs pairs' : List (Label × Value)} (hpairs : Forall₂ (Named (Value.Alike w)) pairs pairs') :
    RunsAlike w (Forall₂ (Value.Alike w)) (bundled args pairs) (bundled args' pairs') := by
  simp only [bundled, forall₂_isEmpty hpairs]
  refine .ite (fun _ => .pure hargs) fun _ => ?_
  exact (newLabelled_alike .keywords hpairs).bind fun _ _ hbundle =>
    .pure (List.rel_append hargs (.cons hbundle .nil))

end TextTemplate.Eval
