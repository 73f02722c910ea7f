import TextTemplate.Node

/-!
# The trees in a tree

What a tree is made of: the tree itself and all trees in it, in whatever place they stand.
-/

namespace TextTemplate

namespace Node

mutual

/-- A tree with all trees in it. -/
def parts : Node → List Node
  | node@(.program body) => node :: partsOfAll body
  | node@(.set target value) => node :: (parts target ++ parts value)
  | node@(.branch condition body alternate) =>
    node :: (parts condition ++ partsOfAll body ++ partsOfAll alternate)
  | node@(.loop target iterable body) =>
    node :: (parts target ++ parts iterable ++ partsOfAll body)
  | node@(.member owner property _) => node :: (parts owner ++ parts property)
  | node@(.call callee args) => node :: (parts callee ++ partsOfAll args)
  | node@(.array items) => node :: partsOfAll items
  | node@(.tuple items) => node :: partsOfAll items
  | node@(.object pairs) => node :: partsOfPairs pairs
  | node@(.binary _ left right) => node :: (parts left ++ parts right)
  | node@(.filter operand applied) => node :: (parts operand ++ parts applied)
  | node@(.test operand _ applied args) =>
    node :: (parts operand ++ parts applied ++ partsOfAll args)
  | node@(.unary _ argument) => node :: parts argument
  | node@(.slice start stop step) =>
    node :: (partsOfPart start ++ partsOfPart stop ++ partsOfPart step)
  | node@(.keyword key value) => node :: (parts key ++ parts value)
  | node@(.ternary condition whenTrue whenFalse) =>
    node :: (parts condition ++ parts whenTrue ++ parts whenFalse)
  | node@(.name _) => [node]
  | node@(.number _) => [node]
  | node@(.text _) => [node]
  | node@(.bool _) => [node]
  | node@.null => [node]
  | node@(.bare _) => [node]

def partsOfAll : List Node → List Node
  | [] => []
  | node :: rest => parts node ++ partsOfAll rest

def partsOfPairs : List (Node × Node) → List Node
  | [] => []
  | (key, value) :: rest => parts key ++ parts value ++ partsOfPairs rest

def partsOfPart : Option Node → List Node
  | none => []
  | some node => parts node

end

theorem mem_parts_self (node : Node) : node ∈ node.parts := by
  cases node <;> simp [parts]

theorem mem_partsOfAll {nodes : List Node} {part : Node} :
    part ∈ partsOfAll nodes ↔ ∃ node ∈ nodes, part ∈ node.parts := by
  induction nodes with
  | nil => simp [partsOfAll]
  | cons node rest ih => simp [partsOfAll, ih]

end Node

end TextTemplate
