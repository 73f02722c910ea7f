import TextTemplate.Node

/-!
Labels: what a tree says where a name is due. In the tree of a template that is always a text. A
tree can also be made by hand, and then numbers, truth values and whole parts of a tree may stand
in the places of names. They are no names of anything, but they can be told apart from one another.
-/

namespace TextTemplate

inductive Label
  | text (value : String)
  | number (value : Number)
  | bool (value : Bool)
  | null
  | tuple (items : List Label)
  | node (kind : String) (parts : List (String × Label))
  deriving Inhabited

namespace Label

mutual

/-- A node, spelled out as its kind and its parts by name. -/
def ofNode : Node → Label
  | .program body => .node "Program" [("body", .tuple (ofNodes body))]
  | .set target value =>
    .node "SetStatement" [("assignee", ofNode target), ("value", ofNode value)]
  | .branch test body alternate =>
    .node "IfStatement" [("test", ofNode test), ("body", .tuple (ofNodes body)),
      ("alternate", .tuple (ofNodes alternate))]
  | .loop target iterable body =>
    .node "ForStatement" [("loopvar", ofNode target), ("iterable", ofNode iterable),
      ("body", .tuple (ofNodes body))]
  | .name value => .node "Identifier" [("value", .text value)]
  | .member object property computed =>
    .node "MemberExpression" [("object", ofNode object),
      ("property", ofNode property), ("computed", .bool computed)]
  | .call callee args =>
    .node "CallExpression" [("callee", ofNode callee),
      ("args", .tuple (ofNodes args))]
  | .number value => .node "NumericLiteral" [("value", .number value)]
  | .text value => .node "StringLiteral" [("value", .text value)]
  | .bool value => .node "BooleanLiteral" [("value", .bool value)]
  | .null => .node "NullLiteral" []
  | .array items => .node "ArrayLiteral" [("value", .tuple (ofNodes items))]
  | .tuple items => .node "TupleLiteral" [("value", .tuple (ofNodes items))]
  | .object pairs => .node "ObjectLiteral" [("value", .tuple (ofNodePairs pairs))]
  | .binary operator left right =>
    .node "BinaryExpression" [("operator", .text operator), ("left", ofNode left),
      ("right", ofNode right)]
  | .filter operand filter =>
    .node "FilterExpression" [("operand", ofNode operand), ("filter", ofNode filter)]
  | .test operand negate test args =>
    .node "TestExpression" [("operand", ofNode operand), ("negate", .bool negate),
      ("test", ofNode test), ("args", .tuple (ofNodes args))]
  | .unary operator argument =>
    .node "UnaryExpression" [("operator", .text operator), ("argument", ofNode argument)]
  | .slice start stop step =>
    .node "SliceExpression" [("start", ofNodePart start), ("stop", ofNodePart stop),
      ("step", ofNodePart step)]
  | .keyword key value =>
    .node "KeywordArgumentExpression" [("key", ofNode key), ("value", ofNode value)]
  | .ternary condition whenTrue whenFalse =>
    .node "TernaryExpression" [("condition", ofNode condition),
      ("true_expr", ofNode whenTrue), ("false_expr", ofNode whenFalse)]
  | .bare .absent => .null
  | .bare kind => .node (Node.bare kind).kindName []

def ofNodes : List Node → List Label
  | [] => []
  | first :: rest => ofNode first :: ofNodes rest

def ofNodePairs : List (Node × Node) → List Label
  | [] => []
  | (key, value) :: rest =>
    .tuple [ofNode key, ofNode value] :: ofNodePairs rest

def ofNodePart : Option Node → Label
  | none => .null
  | some part => ofNode part

end

end Label

/-- What a node says when it stands where a name is due; none when it says nothing. -/
def Node.label? : Node → Option Label
  | .name value | .text value => some (.text value)
  | .number value => some (.number value)
  | .bool value => some (.bool value)
  | .array items | .tuple items => some (.tuple (Label.ofNodes items))
  | .object pairs => some (.tuple (Label.ofNodePairs pairs))
  | .set _ value | .keyword _ value => some (.ofNode value)
  | _ => none

namespace Label

def isText : Label → Bool
  | text _ => true
  | _ => false

/-- The number that a label counts as: truth values count as zero and one. -/
def number? : Label → Option Number
  | number n => some n
  | bool b => some (.int (if b then 1 else 0))
  | _ => none

/-- The truth of a label: nothing, zero and what is empty are false. -/
def truthy : Label → Bool
  | text s => !s.isEmpty
  | number n => !n.isZero
  | bool b => b
  | null => false
  | tuple items => !items.isEmpty
  | node _ _ => true

/-- How many characters or items a label has, none when it has no parts of that kind. -/
def length? : Label → Option Nat
  | text s => some s.length
  | tuple items => some items.length
  | _ => none

/-- The kinds of nodes that are equal to nothing but themselves. -/
def bareKinds : List String := ["Node", "Statement", "Expression", "Literal"]

/-- Whether two numbers have the same value or are one and the same undefined result. -/
def sameNumber : Number → Number → Bool
  | .nan a, .nan b => a == b
  | a, b => a.sameValue b

mutual

/-- Whether two labels are the same: numbers by their values, everything else part by part. -/
def same : Label → Label → Bool
  | text a, text b => a == b
  | null, null => true
  | tuple a, tuple b => sameAll a b
  | node kind a, node kind' b => kind == kind' && !bareKinds.contains kind && sameParts a b
  | a, b =>
    match a.number?, b.number? with
    | some m, some n => sameNumber m n
    | _, _ => false

def sameAll : List Label → List Label → Bool
  | [], [] => true
  | a :: as, b :: bs => same a b && sameAll as bs
  | _, _ => false

def sameParts : List (String × Label) → List (String × Label) → Bool
  | [], [] => true
  | (name, a) :: as, (name', b) :: bs => name == name' && same a b && sameParts as bs
  | _, _ => false

end

/-- Whether two labels have the same value; an undefined number has none. -/
def sameValue (a b : Label) : Bool :=
  match a, b with
  | number (.nan _), _ => false
  | _, _ => a.same b

/-- The outcome of a comparison: the labels have no order at all, or are in some order unless one
of them is undefined. -/
abbrev Comparison := Option (Option Ordering)

mutual

/-- The order of two labels. Tuples are in the order of the first items that differ. -/
def compare? : Label → Label → Comparison
  | text a, text b => some (some (compareOfLessAndEq a b))
  | tuple a, tuple b => compareAll? a b
  | a, b =>
    match a.number?, b.number? with
    | some m, some n => some (m.compare? n)
    | _, _ => none

def compareAll? : List Label → List Label → Comparison
  | [], [] => some (some .eq)
  | [], _ :: _ => some (some .lt)
  | _ :: _, [] => some (some .gt)
  | a :: as, b :: bs => if a.same b then compareAll? as bs else a.compare? b

end

/-- Puts a label into its place among labels in ascending order, none when some have no order. -/
def insertSorted? (label : Label) : List Label → Option (List Label)
  | [] => some [label]
  | other :: rest => do
    let order ← label.compare? other
    if order == some .lt then some (label :: other :: rest)
    else (insertSorted? label rest).map (other :: ·)

/-- Labels in ascending order, none when some have no order. -/
def sorted? (labels : List Label) : Option (List Label) :=
  labels.foldlM (fun sorted label => insertSorted? label sorted) []

end Label

/-- Values by labels, in the order in which the labels were first put in. -/
abbrev Table (α : Type) := List (Label × α)

namespace Table

variable {α : Type}

def get? (label : Label) : Table α → Option α
  | [] => none
  | (l, a) :: rest => if l.same label then some a else get? label rest

/-- Changes the value of a label that is present and appends one that is not. -/
def put (label : Label) (value : α) : Table α → Table α
  | [] => [(label, value)]
  | (l, a) :: rest => if l.same label then (l, value) :: rest else (l, a) :: put label value rest

/-- Puts in all pairs, one after the other. -/
def ofPairs (pairs : List (Label × α)) : Table α :=
  pairs.foldl (fun table (label, value) => put label value table) []

/-- The values of the labels that are texts. -/
def named (table : Table α) : List (String × α) :=
  table.filterMap fun
    | (.text name, value) => some (name, value)
    | _ => none

/-- The labels that are no texts. -/
def unnamed (table : Table α) : List Label := (table.map (·.1)).filter (!·.isText)

end Table

end TextTemplate
