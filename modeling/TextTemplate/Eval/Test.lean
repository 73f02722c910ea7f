import TextTemplate.Eval.Operator
import TextTemplate.Text.Case

/-!
What the tests of values say.
-/

namespace TextTemplate.Eval

/-- Whether a whole number leaves the given remainder on division by two. -/
def hasParity (test : Test) (remainder : Int) : Value → Eval Bool
  | .number (.int i) => pure (i % 2 == remainder)
  | value => fail (.parityTest test.name value.kindName)

/-- Puts a value to a test. Only `equalto` looks at the arguments. -/
def applyTest (test : Test) (value : Value) (args : List Value) : Eval Bool :=
  match test, value with
  | .boolean, .bool _ => pure true
  | .callable, .function _ _ => pure true
  | .odd, value => hasParity .odd 1 value
  | .even, value => hasParity .even 0 value
  | .isFalse, .bool b => pure !b
  | .isTrue, .bool b => pure b
  | .number, .number _ => pure true
  | .integer, .number (.int _) => pure true
  | .iterable, .array _ | .iterable, .text _ | .iterable, .label _ => pure true
  | .lower, .label _ | .upper, .label _ => fail .noMethod
  | .lower, .text s => pure (s == Text.lower s)
  | .upper, .text s => pure (s == Text.upper s)
  | .none, .null => pure true
  | .defined, .undefined => pure false
  | .defined, _ => pure true
  | .undefined, .undefined => pure true
  | .equalto, value =>
    match args with
    | [other] => equal value other
    | _ => fail (.equalityTest args.length)
  | .string, .text _ | .string, .label _ => pure true
  | .mapping, .object _ _ | .mapping, .table _ _ => pure true
  | .sequence, .array _ | .sequence, .text _ | .sequence, .label _ => pure true
  | _, _ => pure false

end TextTemplate.Eval
