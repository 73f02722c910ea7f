import TextTemplate.Number

/-!
Syntax trees of templates. Statements and expressions form one type, since an expression may stand
wherever a statement may. A tree can hold more than templates can be written for: any node in any
place, and the nodes of no kind of their own.
-/

namespace TextTemplate

/-- The general notions of which every other kind is a special one, and the lack of a node where one
is due. -/
inductive BareKind
  | node
  | statement
  | expression
  | literal
  | absent
  deriving DecidableEq, Repr

inductive Node
  | program (body : List Node)
  | set (target value : Node)
  | branch (test : Node) (body alternate : List Node)
  | loop (target iterable : Node) (body : List Node)
  | name (value : String)
  | member (object property : Node) (computed : Bool)
  | call (callee : Node) (args : List Node)
  | number (value : Number)
  | text (value : String)
  | bool (value : Bool)
  | null
  | array (items : List Node)
  | tuple (items : List Node)
  | object (pairs : List (Node × Node))
  | binary (operator : String) (left right : Node)
  | filter (operand filter : Node)
  | test (operand : Node) (negate : Bool) (test : Node) (args : List Node)
  | unary (operator : String) (argument : Node)
  | slice (start stop step : Option Node)
  | keyword (key value : Node)
  | ternary (condition whenTrue whenFalse : Node)
  | bare (kind : BareKind)
  deriving Inhabited

namespace Node

/-- The name of the kind of a node in messages. -/
def kindName : Node → String
  | program _ => "Program"
  | set _ _ => "SetStatement"
  | branch _ _ _ => "IfStatement"
  | loop _ _ _ => "ForStatement"
  | name _ => "Identifier"
  | member _ _ _ => "MemberExpression"
  | call _ _ => "CallExpression"
  | number _ => "NumericLiteral"
  | text _ => "StringLiteral"
  | bool _ => "BooleanLiteral"
  | null => "NullLiteral"
  | array _ => "ArrayLiteral"
  | tuple _ => "TupleLiteral"
  | object _ => "ObjectLiteral"
  | binary _ _ _ => "BinaryExpression"
  | filter _ _ => "FilterExpression"
  | test _ _ _ _ => "TestExpression"
  | unary _ _ => "UnaryExpression"
  | slice _ _ _ => "SliceExpression"
  | keyword _ _ => "KeywordArgumentExpression"
  | ternary _ _ _ => "TernaryExpression"
  | bare .node => "Node"
  | bare .statement => "Statement"
  | bare .expression => "Expression"
  | bare .literal => "Literal"
  | bare .absent => "None"

/-- Whether there is no node at all. -/
def isAbsent : Node → Bool
  | bare .absent => true
  | _ => false

end Node

end TextTemplate
