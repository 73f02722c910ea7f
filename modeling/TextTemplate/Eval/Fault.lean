import TextTemplate.Host
import TextTemplate.Report

/-!
Why the evaluation of a template fails.
-/

namespace TextTemplate

inductive Fault
  /- trees -/
  | keywordOutsideCall
  | sliceOutsideBrackets
  | unknownNode (kindName : String)
  | unlabelled
  /- what is not of the kind that alone will do -/
  | unfit
  | noMethod
  | notListed
  /- statements -/
  | cannotRender (type : String)
  | undefinedName (name : String)
  | undefinedResult (kindName : String)
  | memberOfNonObject (type : String)
  | invalidTarget (kindName : String)
  | notIterable (type : String)
  | cannotUnpack (type : String)
  | tooFewItems (expected found : Nat)
  | tooManyItems (expected found : Nat)
  | unpackTarget (kindName : String)
  | invalidLoopTarget (kindName : String)
  /- operators -/
  | absentOperand (operator left right : String)
  | notSupported (operator left right : String)
  | unknownOperator (operator left right : String)
  | unknownNumericOperator (operator : String)
  | unknownUnary (operator type : String)
  | cannotCompare (operator left right : String)
  | cannotConcatenate (operator type : String)
  | divisionByZero (operator : String)
  | overflow
  | numeralTooLong
  /- members and calls -/
  | cannotAccess (object property : String)
  | indexOutOfRange (index : Int) (type : String) (length : Nat)
  | sliceOfNonSequence (type : String)
  | sliceBound (type : String)
  | zeroSliceStep (step : Data)
  | notCallable (type : String)
  | objectKey (type : String)
  /- filters and tests -/
  | unknownFilterNode (kindName : String)
  | unknownFilter (name type : String)
  | sortFilter
  | joinSeparator (type : String)
  | cannotSerialize (type reason : String)
  | unknownTest (label : Label)
  | parityTest (name type : String)
  | equalityTest (args : Nat)
  /- functions and methods -/
  | textArguments (method : String) (least most : Nat) (types : List String)
  | replaceArguments (types : List String)
  | getArguments (types : List String)
  | emptySeparator
  | namespaceArguments (types : List String)
  | rangeKeywords (keywords : List Label)
  | rangeArguments (types : List String)
  | zeroRangeStep (step : Data)
  | raised (message : String)
  /- variables -/
  | alreadyDeclared (name : String)
  | unknownVariable (name : String)
  /- the host -/
  | foreignValue (typeName : String)
  | foreignKey (typeName written : String)
  | hostFailure (message : String)
  | unexpectedKeywords
  | callsTooDeep
  | containsItself

namespace Fault

private def reported (errorClass : ErrorClass) (message : String)
    (details : List (String × Data)) : Problem :=
  .reported ⟨errorClass, message, details, errorClass.code⟩

private def runtime (message : String) (details : List (String × Data)) : Problem :=
  reported .runtime message details

private def operands (operator left right : String) : List (String × Data) :=
  [("operator", .text operator), ("left", .text left), ("right", .text right)]

private def unpacking (expected found : Nat) : List (String × Data) :=
  [("expected", .ofNat expected), ("found", .ofNat found)]

def problem : Fault → Problem
  | keywordOutsideCall => runtime "Keyword arguments are only allowed in calls" []
  | sliceOutsideBrackets => runtime "Slices are only allowed inside []" []
  | unknownNode kindName => runtime ("Unknown node type: " ++ kindName) [("node", .text kindName)]
  | unlabelled | noMethod => .noAttribute
  | unfit => .wrongType
  | notListed => .noKey
  | cannotRender type =>
    runtime ("Cannot render value of type " ++ type) [("type", .text type)]
  | undefinedName name =>
    reported .undefined ("Undefined variable: " ++ name) [("name", .text name)]
  | undefinedResult kindName =>
    reported .undefined ("Undefined value rendered from " ++ kindName) [("node", .text kindName)]
  | memberOfNonObject type =>
    runtime ("Cannot assign to member of non-object type " ++ type) [("type", .text type)]
  | invalidTarget kindName =>
    runtime ("Invalid assignee type: " ++ kindName) [("assignee", .text kindName)]
  | notIterable type =>
    runtime ("Expected iterable type in for loop: got " ++ type) [("type", .text type)]
  | cannotUnpack type =>
    runtime ("Cannot unpack non-iterable type: " ++ type) [("type", .text type)]
  | tooFewItems expected found =>
    runtime "Too few items to unpack" (unpacking expected found)
  | tooManyItems expected found =>
    runtime "Too many items to unpack" (unpacking expected found)
  | unpackTarget kindName =>
    runtime ("Cannot unpack into non-identifier type: " ++ kindName) [("target", .text kindName)]
  | invalidLoopTarget kindName =>
    runtime ("Invalid loop variable type: " ++ kindName) [("loopvar", .text kindName)]
  | absentOperand operator left right =>
    runtime ("Cannot perform operation '" ++ operator ++ "' on " ++ left ++ " and " ++ right)
      (operands operator left right)
  | notSupported operator left right =>
    reported .unsupported
      ("Operator '" ++ operator ++ "' is not supported between " ++ left ++ " and " ++ right)
      (operands operator left right)
  | unknownOperator operator left right =>
    runtime ("Unknown operator '" ++ operator ++ "' between " ++ left ++ " and " ++ right)
      (operands operator left right)
  | unknownNumericOperator operator =>
    runtime ("Unknown operator '" ++ operator ++ "' between NumericValue and NumericValue")
      [("operator", .text operator)]
  | unknownUnary operator type =>
    runtime ("Unknown operator '" ++ operator ++ "' for " ++ type)
      [("operator", .text operator), ("type", .text type)]
  | cannotCompare operator left right =>
    runtime ("Cannot compare " ++ left ++ " and " ++ right ++ " with '" ++ operator ++ "'")
      (operands operator left right)
  | cannotConcatenate operator type =>
    runtime ("Cannot concatenate " ++ type ++ " with '" ++ operator ++ "'")
      [("operator", .text operator), ("type", .text type)]
  | divisionByZero operator =>
    runtime ("Division by zero in '" ++ operator ++ "'") [("operator", .text operator)]
  | overflow => .overflow
  | numeralTooLong => .numeralTooLong none
  | cannotAccess object property =>
    runtime ("Cannot access property of type " ++ property ++ " on " ++ object)
      [("object", .text object), ("property", .text property)]
  | indexOutOfRange index type length =>
    runtime
      ("Index " ++ toString index ++ " out of range for " ++ type ++ " of length " ++
        toString length)
      [("index", .number (.int index)), ("length", .ofNat length)]
  | sliceOfNonSequence type =>
    runtime ("Slice access is only supported on arrays and strings, got " ++ type)
      [("type", .text type)]
  | sliceBound type =>
    runtime ("Slice bounds must be integers, got " ++ type) [("type", .text type)]
  | zeroSliceStep step => runtime "Slice step cannot be zero" [("step", step)]
  | notCallable type =>
    runtime ("Cannot call something that is not a function: got " ++ type) [("type", .text type)]
  | objectKey type => runtime ("Object keys must be strings: got " ++ type) [("type", .text type)]
  | unknownFilterNode kindName =>
    runtime ("Unknown filter type: " ++ kindName) [("type", .text kindName)]
  | unknownFilter name type =>
    runtime ("Unknown filter '" ++ name ++ "' for type " ++ type)
      [("filter", .text name), ("type", .text type)]
  | sortFilter =>
    reported .unsupported "Filter 'sort' is not supported" [("filter", .text "sort")]
  | joinSeparator type =>
    runtime ("join() separator must be a string, got " ++ type)
      [("filter", .text "join"), ("type", .text type)]
  | cannotSerialize type reason =>
    runtime ("Cannot serialize " ++ type ++ " to JSON: " ++ reason) [("type", .text type)]
  | unknownTest label =>
    match label.display? with
    | some name => runtime ("Unknown test: " ++ name) [("test", label.toData)]
    | none => .numeralTooLong none
  | parityTest name type =>
    runtime ("Cannot apply test '" ++ name ++ "' to type: " ++ type)
      [("test", .text name), ("type", .text type)]
  | equalityTest args =>
    runtime "Test 'equalto' expects exactly one argument"
      [("test", .text "equalto"), ("args", .ofNat args)]
  | textArguments method least most types =>
    runtime
      (method ++ "() expects " ++ toString least ++ "-" ++ toString most ++ " string arguments")
      [("args", .texts types)]
  | replaceArguments types =>
    runtime "replace() expects two string arguments and an optional count"
      [("args", .texts types)]
  | getArguments types =>
    runtime "Object.get() expects a string key and an optional default" [("args", .texts types)]
  | emptySeparator => .badValue "empty separator"
  | namespaceArguments types =>
    runtime "namespace() expects keyword arguments or a single object" [("args", .texts types)]
  | rangeKeywords keywords =>
    runtime "range() accepts 'step' as its only keyword, after stop or start and stop"
      [("keywords", .list (Label.toDatas keywords))]
  | rangeArguments types =>
    runtime "range() expects 1 to 3 integer arguments" [("args", .texts types)]
  | zeroRangeStep step => runtime "range() step must not be zero" [("step", step)]
  | raised message => runtime message [("source", .text "raise_exception")]
  | alreadyDeclared name =>
    reported .lexical ("Variable already declared: " ++ name) [("name", .text name)]
  | unknownVariable name => runtime ("Unknown variable: " ++ name) [("name", .text name)]
  | foreignValue typeName =>
    reported .value ("Cannot convert value of type " ++ typeName ++ " to a template value")
      [("type", .text typeName)]
  | foreignKey typeName written =>
    reported .value ("Object keys must be strings, got " ++ typeName) [("key", .text written)]
  | hostFailure message => .badValue message
  | unexpectedKeywords => .wrongType
  | callsTooDeep | containsItself => .tooDeep

end Fault

end TextTemplate
