import TextTemplate.Prompt
import TextTemplate.Report

/-!
What is right and wrong with the variables that a caller means to give to a prompt.
-/

namespace TextTemplate

/-- The names that are missing, missing but not needed, or not used, in order, and the values that
templates cannot take, by name in order, with the reasons. -/
structure Verdict where
  required : List String
  optional : List String
  extra : List String
  invalid : Fields String
  deriving DecidableEq

namespace Verdict

/-- Values in the order of their names. -/
def sortedByName (entries : Fields String) : Fields String :=
  entries.mergeSort fun a b => decide (a.1 ≤ b.1)

/-- A verdict from parts in any order. -/
def ofParts (required optional extra : List String) (invalid : Fields String) : Verdict where
  required := sortedTexts required.eraseDups
  optional := sortedTexts optional.eraseDups
  extra := sortedTexts extra.eraseDups
  invalid := sortedByName (Fields.ofPairs invalid)

/-- Nothing is missing that is needed, and every value can be taken. -/
def isValid (verdict : Verdict) : Bool := verdict.required.isEmpty && verdict.invalid.isEmpty

def listed (names : List String) : String := ", ".intercalate names

/-- The sentences about what was found, in the order of their weight. -/
def sentences (verdict : Verdict) : List String :=
  (if verdict.required.isEmpty then []
    else ["Missing required variables: " ++ listed verdict.required]) ++
  (if verdict.invalid.isEmpty then []
    else ["Invalid values: " ++
      listed (verdict.invalid.map fun (name, reason) => name ++ " (" ++ reason ++ ")")]) ++
  (if verdict.optional.isEmpty then []
    else ["Missing optional variables (have defaults): " ++ listed verdict.optional]) ++
  (if verdict.extra.isEmpty then []
    else ["Extra variables (will be ignored): " ++ listed verdict.extra])

def summary (verdict : Verdict) : String := ". ".intercalate verdict.sentences

/-- The verdict on variables, given those a template expects, the names it gets from elsewhere, the
names that are given and the values among them that cannot be taken. -/
def ofNames (expected : TemplateVariables) (elsewhere given : List String)
    (invalid : Fields String) : Verdict :=
  let provided := elsewhere ++ given
  ofParts (expected.required.filter (!provided.contains ·))
    (expected.optional.filter (!provided.contains ·))
    (given.filter (!expected.all.contains ·)) invalid

end Verdict

/-- What was validated: a prompt, the values it can take and the mode of the rendering. -/
structure Validation.Subject where
  prompt : Nat
  given : Fields Host
  strict : Bool

/-- A verdict, with what it is about unless it was made up. -/
structure Validation where
  verdict : Verdict
  subject : Option Validation.Subject

namespace Validation

/-- The report on rendering a verdict that is about nothing. -/
def noSubject : Report where
  errorClass := .template
  message := "ValidationResult.render() requires a result created by " ++
    "PromptTemplate.validate(). This result has no template context."
  code := "TEMPLATE_STATE_INVALID"

/-- The report on rendering with variables that are not valid. -/
def notValid (verdict : Verdict) : Report where
  errorClass := .template
  message := "Cannot render invalid template. " ++ verdict.summary
  details := [("required", .texts verdict.required),
    ("invalid", .record (verdict.invalid.map fun (name, reason) => (name, .text reason)))]
  code := "TEMPLATE_VALIDATION_FAILED"

end Validation

end TextTemplate
