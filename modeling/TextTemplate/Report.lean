import TextTemplate.Data
import TextTemplate.Text.Quoted

/-!
Error reports: a class, a message, a stable code and structured details. Every cause of failure is
described by a `Problem`, which is a report or one of the few faults that have no report.
-/

namespace TextTemplate

/-- The classes of reported errors. -/
inductive ErrorClass
  | base
  | template
  | lexical
  | structural
  | runtime
  | undefined
  | value
  | unsupported
  | notFound
  | validation
  deriving DecidableEq, Repr

namespace ErrorClass

def name : ErrorClass → String
  | base => "ChatplateError"
  | template => "TemplateError"
  | lexical => "TemplateSyntaxError"
  | structural => "TemplateParserError"
  | runtime => "TemplateRuntimeError"
  | undefined => "TemplateUndefinedError"
  | value => "TemplateValueError"
  | unsupported => "TemplateNotSupportedError"
  | notFound => "TemplateNotFoundError"
  | validation => "ValidationError"

/-- The code of a report that sets no other. -/
def code : ErrorClass → String
  | base => "INTERNAL_ERROR"
  | template => "TEMPLATE_ERROR"
  | lexical => "TEMPLATE_SYNTAX_ERROR"
  | structural => "TEMPLATE_PARSER_ERROR"
  | runtime => "TEMPLATE_RUNTIME_ERROR"
  | undefined => "TEMPLATE_UNDEFINED_VAR"
  | value => "TEMPLATE_INVALID_VALUE"
  | unsupported => "TEMPLATE_NOT_SUPPORTED"
  | notFound => "TEMPLATE_NOT_FOUND"
  | validation => "INVALID_ARGUMENT"

/-- The class and every class above it, from the most special to the most general. -/
def ancestry : ErrorClass → List ErrorClass
  | base => [base]
  | template => [template, base]
  | lexical => [lexical, template, base]
  | structural => [structural, lexical, template, base]
  | runtime => [runtime, template, base]
  | undefined => [undefined, runtime, template, base]
  | value => [value, runtime, template, base]
  | unsupported => [unsupported, template, base]
  | notFound => [notFound, template, base]
  | validation => [validation, base]

def all : List ErrorClass :=
  [base, template, lexical, structural, runtime, undefined, value, unsupported, notFound,
    validation]

def ofName? (name : String) : Option ErrorClass := all.find? (·.name == name)

end ErrorClass

structure Report where
  errorClass : ErrorClass
  message : String
  details : List (String × Data) := []
  code : String := errorClass.code

namespace Report

/-- The report on one line, with its class and code. -/
def headline (r : Report) : String :=
  r.errorClass.name ++ "(" ++ Text.quoted r.message ++ ", code=" ++ Text.quoted r.code ++ ")"

/-- Syntax errors, lexical and structural, carry their message a second time. -/
def syntaxMessage? (r : Report) : Option String :=
  if ErrorClass.lexical ∈ r.errorClass.ancestry then some r.message else none

end Report

/-- How a failure shows itself: as a report, or as one of the faults without one. -/
inductive Problem
  | reported (report : Report)
  | badValue (message : String)
  | noFile (message : String)
  | overflow
  | outOfMemory
  | beyondSystem
  | undecodable
  | wrongType
  | noAttribute
  | noKey
  | tooDeep

/-- A numeral of too many digits, with their number when it was read rather than written. -/
def Problem.numeralTooLong (digits : Option Nat) : Problem :=
  .badValue <|
    "Exceeds the limit (4300 digits) for integer string conversion" ++
      (match digits with
        | some n => ": value has " ++ toString n ++ " digits"
        | none => "") ++
      "; use sys.set_int_max_str_digits() to increase the limit"

end TextTemplate
