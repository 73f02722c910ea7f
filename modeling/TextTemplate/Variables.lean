import TextTemplate.Fields
import TextTemplate.Label

/-!
The variables a template expects from its caller, found without rendering it. A name that only
occurs under a guard, such as a test whether it is defined, may be left out.
-/

namespace TextTemplate

/-- The names that every template finds without its caller's help. -/
def builtinNames : List String :=
  ["true", "false", "True", "False", "None", "range", "raise_exception", "namespace"]

/-- The tests that ask whether a value is there. -/
def guardTests : List String := ["defined", "undefined", "none"]

/-- The filters that stand in for a value that is not there. -/
def guardFilters : List String := ["default", "d"]

/-- What has been found so far: names bound by the template itself, names used directly, and names
used under a guard. -/
structure Findings where
  bound : List String
  required : List String
  guarded : List String

namespace Findings

def empty : Findings := ⟨[], [], []⟩

def bind (found : Findings) (name : String) : Findings :=
  { found with bound := name :: found.bound }

/-- Records the use of a name. -/
def use (guarded : Bool) (name : String) (found : Findings) : Findings :=
  if found.bound.contains name || builtinNames.contains name then found
  else if guarded then { found with guarded := name :: found.guarded }
  else { found with required := name :: found.required }

/-- The names that a loop binds for its body. -/
def loopNames : Node → List String
  | .name name => ["loop", name]
  | .tuple targets => "loop" :: targets.filterMap fun
    | .name name => some name
    | _ => none
  | _ => ["loop"]

/-- What was found inside a loop, without the names that were bound there. -/
def leaveLoop (outside inside : Findings) : Findings := { inside with bound := outside.bound }

def isOneOf (names : List String) : Option Label → Bool
  | some (.text name) => names.contains name
  | _ => false

mutual

/-- Adds what a tree uses and binds. The flag says whether it stands under a guard. -/
def visit (guarded : Bool) : Node → Findings → Findings
  | .program body, found => visitAll body found
  | .set (.name name) value, found => (visit false value found).bind name
  | .set target value, found => visit false target (visit false value found)
  | .branch test body alternate, found =>
    visitAll alternate (visitAll body (visit false test found))
  | .loop target iterable body, found =>
    let found := visit false iterable found
    found.leaveLoop (visitAll body { found with bound := loopNames target ++ found.bound })
  | .name name, found => found.use guarded name
  | .member object property computed, found =>
    let found := visit guarded object found
    if computed then visit false property found else found
  | .call callee args, found => visitAll args (visit false callee found)
  | .array items, found => visitAll items found
  | .tuple items, found => visitAll items found
  | .object pairs, found => visitPairs pairs found
  | .binary _ left right, found => visit false right (visit false left found)
  | .filter operand (.call callee args), found =>
    visit (isOneOf guardFilters callee.label?) operand (visitAll args found)
  | .filter operand (.name name), found => visit (guardFilters.contains name) operand found
  | .filter operand _, found => visit false operand found
  | .test operand _ test args, found =>
    visitAll args (visit (isOneOf guardTests test.label?) operand found)
  | .unary _ argument, found => visit false argument found
  | .slice start stop step, found =>
    visitPart step (visitPart stop (visitPart start found))
  | .keyword _ value, found => visit false value found
  | .ternary condition whenTrue whenFalse, found =>
    visit false whenFalse (visit false whenTrue (visit false condition found))
  | .number _, found => found
  | .text _, found => found
  | .bool _, found => found
  | .null, found => found
  | .bare _, found => found

def visitAll : List Node → Findings → Findings
  | [], found => found
  | node :: rest, found => visitAll rest (visit false node found)

def visitPairs : List (Node × Node) → Findings → Findings
  | [], found => found
  | (key, value) :: rest, found =>
    visitPairs rest (visit false value (visit false key found))

def visitPart : Option Node → Findings → Findings
  | none, found => found
  | some node, found => visit false node found

end

end Findings

/-- The names a template uses directly, and those it uses under guards only. -/
structure TemplateVariables where
  required : List String
  optional : List String

namespace TemplateVariables

def ofFindings (found : Findings) : TemplateVariables where
  required := sortedTexts found.required.eraseDups
  optional := sortedTexts
    (found.guarded.filter (!found.required.contains ·)).eraseDups

def all (names : TemplateVariables) : List String :=
  sortedTexts (names.required ++ names.optional)

end TemplateVariables

/-- The variables that a template expects. -/
def findVariables (program : Node) : TemplateVariables :=
  .ofFindings (Findings.visit false program .empty)

end TextTemplate
