import TextTemplate.Eval.Operator
import TextTemplate.Proofs.Matching.Eval

/-!
# Operators on values that are alike

Operators look at what values are and hold, never at addresses or marks themselves.
-/

namespace TextTemplate.Eval

open List (Forall₂)

variable {w : Matching} {α β : Type} {R : α → β → Prop} {left left' right right' : Value}

theorem fail_alike {fault fault' : Fault} (h : fault = fault') :
    RunsAlike w R (fail fault : Eval α) (fail fault' : Eval β) := h ▸ .fail fault

theorem truth_alike (h : Value.Alike w left left') : RunsAlike w Eq (truth left) (truth left') := by
  cases h with
  | number h => exact .pure (by rw [h.isZero])
  | array h => exact .pure (by rw [forall₂_isEmpty h])
  | object _ h =>
    exact (fieldsOf_alike h).bind fun _ _ hfields => .pure (by rw [forall₂_isEmpty hfields])
  | _ => exact .pure rfl

theorem numeral_alike {m n : Number} (h : Number.Alike w m n) :
    RunsAlike w Eq (numeral m) (numeral n) := by
  simp only [numeral, Number.text?, h.textWith?]
  split
  · exact .pure rfl
  · exact .fail _

theorem concatText_alike (operator : String) (h : Value.Alike w left left') :
    RunsAlike w Eq (concatText operator left) (concatText operator left') := by
  have hother : RunsAlike w (Eq (α := String)) (fail (.cannotConcatenate operator left.kindName))
      (fail (.cannotConcatenate operator left'.kindName)) := fail_alike (by rw [h.kindName])
  cases h with
  | number h => exact numeral_alike h
  | bool b => exact .pure rfl
  | text s => exact .pure rfl
  | _ => exact hother

theorem displayText_alike (h : Value.Alike w left left') :
    RunsAlike w Eq (displayText left) (displayText left') := by
  refine (toHost_alike h).bind fun _ _ hhost => ?_
  rw [hhost.display?]
  split
  · exact .pure rfl
  · exact .fail _

theorem equal_alike (h : Value.Alike w left left') (h' : Value.Alike w right right') :
    RunsAlike w Eq (equal left right) (equal left' right') :=
  (snapshot_alike h).bind fun held _ hheld => (snapshot_alike h').bind fun held' _ hheld' =>
    .pure (Snapshot.equal_eq held _ hheld held' _ hheld')

theorem compareEquality_alike (operator : String) (h : Value.Alike w left left')
    (h' : Value.Alike w right right') :
    RunsAlike w Eq (compareEquality operator left right)
      (compareEquality operator left' right') := by
  have hother : RunsAlike w Eq
      (if operator == "!=" && !left.sameKind right then pure true
        else fail (.cannotCompare operator left.kindName right.kindName))
      (if operator == "!=" && !left'.sameKind right' then pure true
        else fail (.cannotCompare operator left'.kindName right'.kindName)) := by
    simp only [Value.sameKind, h.kindName, h'.kindName]
    exact .ite (fun _ => .pure rfl) fun _ => .fail _
  cases h <;> cases h' <;> try exact hother
  case number.number h _ _ h' => exact .pure (by rw [h.sameValue h'])
  case bool.bool => exact .pure rfl
  case text.text => exact .pure rfl

theorem arithmetic_alike (operator : String) {r r' : Except Number.Trouble Number}
    (h : Number.Alike.Result w r r') :
    RunsAlike w (Value.Alike w) (arithmetic operator r) (arithmetic operator r') := by
  cases h with
  | ok h => exact ofNumber_alike h
  | error trouble => cases trouble <;> exact .fail _

theorem numericBinary_alike (operator : String) {a b a' b' : Number} (h : Number.Alike w a b)
    (h' : Number.Alike w a' b') :
    RunsAlike w (Value.Alike w) (numericBinary operator a a') (numericBinary operator b b') := by
  have hcompared (holds : Option Ordering → Bool) : RunsAlike w (Value.Alike w)
      (pure (.bool (holds (a.compare? a')))) (pure (.bool (holds (b.compare? b')))) :=
    .pure (h.compare? h' ▸ .bool _)
  unfold numericBinary
  split
  · exact arithmetic_alike _ (h.combine h' _ _)
  · exact arithmetic_alike _ (h.combine h' _ _)
  · exact arithmetic_alike _ (h.combine h' _ _)
  · exact arithmetic_alike _ (h.div h')
  · exact arithmetic_alike _ (h.floorDiv h')
  · exact arithmetic_alike _ (h.mod h')
  · exact hcompared (· == some .lt)
  · exact hcompared (· == some .gt)
  · exact hcompared (·.any (· != .gt))
  · exact hcompared (·.any (· != .lt))
  · exact .fail _

theorem textBinary_alike (operator a b : String) :
    RunsAlike w (Value.Alike w) (textBinary operator a b) (textBinary operator a b) := by
  unfold textBinary
  split <;> first | exact .pure (.bool _) | exact .fail _

theorem isAmong_alike (h : Value.Alike w left left') {items items' : List Value}
    (hitems : Forall₂ (Value.Alike w) items items') :
    RunsAlike w Eq (isAmong left items) (isAmong left' items') := by
  refine (snapshot_alike h).bind fun held held' hheld => ?_
  refine (RunsAlike.mapAll hitems fun _ _ hitem => snapshot_alike hitem).bind
    fun others others' h => ?_
  refine .pure ?_
  induction h with
  | nil => rfl
  | cons hitem _ ih =>
    simp only [List.any_cons, Snapshot.equal_eq held _ hheld _ _ hitem, ih]

theorem isAbsent_eq (h : Value.Alike w left left') : isAbsent left = isAbsent left' := by
  cases h <;> rfl

/-- Values that are alike are no labels, so they are joined as texts. -/
theorem concatenation_alike (operator : String) (h : Value.Alike w left left')
    (h' : Value.Alike w right right') :
    RunsAlike w (Value.Alike w) (concatenation operator left right)
      (concatenation operator left' right') := by
  have htexts : RunsAlike w (Value.Alike w)
      (do
        let a ← concatText operator left
        let b ← concatText operator right
        pure (.text (a ++ b)))
      (do
        let a ← concatText operator left'
        let b ← concatText operator right'
        pure (.text (a ++ b))) :=
    (concatText_alike operator h).bind fun _ _ ha =>
      (concatText_alike operator h').bind fun _ _ hb => .pure (ha ▸ hb ▸ .text _)
  cases h <;> cases h' <;> exact htexts

theorem tilde_alike (h : Value.Alike w left left') (h' : Value.Alike w right right') :
    RunsAlike w (Value.Alike w) (tilde left right) (tilde left' right') := by
  have hpresented {value value' : Value} (h : Value.Alike w value value') :
      Value.Alike w (if isAbsent value then .text "" else value)
        (if isAbsent value' then .text "" else value') := by
    rw [isAbsent_eq h]
    split
    · exact .text ""
    · exact h
  exact concatenation_alike "~" (hpresented h) (hpresented h')

theorem hasField_alike (h : Value.Alike w left left') {a b : Address} (hab : w.objects a b) :
    RunsAlike w Eq (hasField left a) (hasField left' b) := by
  cases h with
  | text s =>
    exact (fieldsOf_alike hab).bind fun _ _ hfields => .pure (Fields.has_eq hfields s)
  | _ => exact .pure rfl

theorem presentBinary_alike (operator : String) (h : Value.Alike w left left')
    (h' : Value.Alike w right right') :
    RunsAlike w (Value.Alike w) (presentBinary operator left right)
      (presentBinary operator left' right') := by
  have hnotSupported : RunsAlike w (Value.Alike w)
      (fail (.notSupported operator left.kindName right.kindName))
      (fail (.notSupported operator left'.kindName right'.kindName)) :=
    fail_alike (by rw [h.kindName, h'.kindName])
  have hunknown : RunsAlike w (Value.Alike w)
      (fail (.unknownOperator operator left.kindName right.kindName))
      (fail (.unknownOperator operator left'.kindName right'.kindName)) :=
    fail_alike (by rw [h.kindName, h'.kindName])
  have hjoined := concatenation_alike operator h h'
  have hanswer {found found' : Eval Bool} (hfound : RunsAlike w Eq found found') :
      RunsAlike w (Value.Alike w) (found >>= fun found => pure (membership operator found))
        (found' >>= fun found => pure (membership operator found)) :=
    hfound.bind fun _ _ hfound => .pure (hfound ▸ .bool _)
  cases h' with
  | array hitems =>
    have hamong := hanswer (isAmong_alike h hitems)
    cases h with
    | array hothers =>
      exact .ite (fun _ => .pure (.array (List.rel_append hothers hitems))) fun _ =>
        .ite (fun _ => hamong) fun _ => hunknown
    | _ => exact .ite (fun _ => hamong) fun _ => hnotSupported
  | object kind hab =>
    cases h with
    | text s =>
      exact .ite (fun _ => hjoined) fun _ =>
        .ite (fun _ => hanswer (hasField_alike (.text s) hab)) fun _ => hnotSupported
    | _ => exact hnotSupported
  | text s =>
    cases h with
    | text s' => exact .ite (fun _ => hjoined) fun _ => textBinary_alike operator s' s
    | _ => exact .ite (fun _ => hjoined) fun _ => hunknown
  | number hright =>
    cases h with
    | number hleft => exact numericBinary_alike operator hleft hright
    | text s => exact .ite (fun _ => hjoined) fun _ => hunknown
    | _ => exact hunknown
  | _ =>
    cases h with
    | text s => exact .ite (fun _ => hjoined) fun _ => hunknown
    | _ => exact hunknown

theorem applyBinary_alike (operator : String) (h : Value.Alike w left left')
    (h' : Value.Alike w right right') :
    RunsAlike w (Value.Alike w) (applyBinary operator left right)
      (applyBinary operator left' right') := by
  unfold applyBinary
  refine .ite (fun _ => ?_) fun _ => .ite (fun _ => tilde_alike h h') fun _ => ?_
  · exact (compareEquality_alike operator h h').bind fun _ _ hanswer => .pure (hanswer ▸ .bool _)
  · rw [isAbsent_eq h, isAbsent_eq h']
    refine .ite (fun _ => fail_alike ?_) fun _ => presentBinary_alike operator h h'
    rw [h.kindName, h'.kindName]

theorem applyUnary_alike (operator : String) (h : Value.Alike w left left') :
    RunsAlike w (Value.Alike w) (applyUnary operator left) (applyUnary operator left') := by
  have hunknown : RunsAlike w (Value.Alike w) (fail (.unknownUnary operator left.kindName))
      (fail (.unknownUnary operator left'.kindName)) := fail_alike (by rw [h.kindName])
  by_cases hnot : operator = "not"
  · subst hnot
    exact (truth_alike h).bind fun _ _ hholds => .pure (hholds ▸ .bool _)
  cases h with
  | number h =>
    by_cases hminus : operator = "-"
    · subst hminus
      exact ofNumber_alike h.neg
    by_cases hplus : operator = "+"
    · subst hplus
      exact .pure (.number h)
    have hother (n : Number) : applyUnary operator (.number n) =
        fail (.unknownUnary operator (Value.number n).kindName) := by
      unfold applyUnary
      split <;> first | contradiction | rfl
    simpa only [hother] using hunknown
  | _ => simpa only [applyUnary, hnot] using hunknown

end TextTemplate.Eval
