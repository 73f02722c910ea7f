import Mathlib.Logic.Relation
import TextTemplate.Eval.Evaluate

/-!
# Where evaluation gets

Evaluation is a function from a tree to a result. For properties of all that happens on the way it
is taken as a movement here: the evaluation of a node begins the evaluation of other nodes, each in
the state that what came before has left. A node that is not evaluated is not reached, be it in the
branch not taken, in a loop over nothing or behind a fault.
-/

namespace TextTemplate

/-- What an object literal takes for a key. -/
def Value.isKey : Value → Bool
  | .text _ | .label _ => true
  | _ => false

namespace Eval

/-- What evaluation is at: a node, or what is left of a sequence of nodes, or of the items that a
loop goes through. -/
inductive Part
  | node (node : Node)
  | block (body : List Node)
  | items (items : List Node)
  | arguments (args : List Node)
  | pairs (pairs : List (Node × Node))
  | bound (bound : Option Node)
  | rounds (target : Node) (body : List Node) (length index : Nat) (previous : Value)
    (items : List Value)

/-- A point of an evaluation. -/
structure Moment where
  part : Part
  state : State

/-- The state of a loop at the start of a round. -/
def startRound (target : Node) (length index : Nat) (previous item : Value) (rest : List Value) :
    Eval Unit := do
  let about ← newObject .plain (loopFields length index previous (rest.head?.getD .undefined))
  bindName "loop" about
  bindTarget target item

/-- The evaluation of one part begins that of another. -/
inductive Begins (context : Context) : Moment → Moment → Prop
  | program {body : List Node} {s : State} :
    Begins context ⟨.node (.program body), s⟩ ⟨.block body, s⟩
  | setValue {target value : Node} {s : State} :
    Begins context ⟨.node (.set target value), s⟩ ⟨.node value, s⟩
  | setOwner {owner value : Node} {key : String} {v : Value} {s t : State}
    (hvalue : evaluate value context s = (.ok v, t)) :
    Begins context ⟨.node (.set (.member owner (.name key) false) value), s⟩ ⟨.node owner, t⟩
  | branchTest {test : Node} {body alternate : List Node} {s : State} :
    Begins context ⟨.node (.branch test body alternate), s⟩ ⟨.node test, s⟩
  | branchBody {test : Node} {body alternate : List Node} {v : Value} {s t u : State}
    (htest : evaluate test context s = (.ok v, t)) (htruth : truth v context t = (.ok true, u)) :
    Begins context ⟨.node (.branch test body alternate), s⟩ ⟨.block body, u⟩
  | branchAlternate {test : Node} {body alternate : List Node} {v : Value} {s t u : State}
    (htest : evaluate test context s = (.ok v, t)) (htruth : truth v context t = (.ok false, u)) :
    Begins context ⟨.node (.branch test body alternate), s⟩ ⟨.block alternate, u⟩
  | loopIterable {target iterable : Node} {body : List Node} {s : State} :
    Begins context ⟨.node (.loop target iterable body), s⟩
      ⟨.node iterable, { s with environment := s.environment.enter }⟩
  | loopRounds {target iterable : Node} {body : List Node} {items : List Value} {s t : State}
    (hiterable : evaluate iterable context { s with environment := s.environment.enter } =
      (.ok (.array items), t)) :
    Begins context ⟨.node (.loop target iterable body), s⟩
      ⟨.rounds target body items.length 0 .undefined items, t⟩
  | memberOwner {owner property : Node} {computed : Bool} {s : State} :
    Begins context ⟨.node (.member owner property computed), s⟩ ⟨.node owner, s⟩
  | memberKey {owner property : Node} {v : Value} {s t : State}
    (hproperty : ∀ start stop step, property ≠ .slice start stop step)
    (howner : evaluate owner context s = (.ok v, t)) :
    Begins context ⟨.node (.member owner property true), s⟩ ⟨.node property, t⟩
  | sliceStart {owner : Node} {start stop step : Option Node} {v : Value} {s t : State}
    (howner : evaluate owner context s = (.ok v, t)) (hsequence : isSequence v = true) :
    Begins context ⟨.node (.member owner (.slice start stop step) true), s⟩ ⟨.bound start, t⟩
  | sliceStop {owner : Node} {start stop step : Option Node} {v : Value} {i : Option Int}
    {s t u : State} (howner : evaluate owner context s = (.ok v, t))
    (hsequence : isSequence v = true) (hstart : evaluateBound start context t = (.ok i, u)) :
    Begins context ⟨.node (.member owner (.slice start stop step) true), s⟩ ⟨.bound stop, u⟩
  | sliceStep {owner : Node} {start stop step : Option Node} {v : Value} {i j : Option Int}
    {s t u w : State} (howner : evaluate owner context s = (.ok v, t))
    (hsequence : isSequence v = true) (hstart : evaluateBound start context t = (.ok i, u))
    (hstop : evaluateBound stop context u = (.ok j, w)) :
    Begins context ⟨.node (.member owner (.slice start stop step) true), s⟩ ⟨.bound step, w⟩
  | callArguments {callee : Node} {args : List Node} {s : State} :
    Begins context ⟨.node (.call callee args), s⟩ ⟨.arguments args, s⟩
  | callCallee {callee : Node} {args : List Node} {positional passed : List Value}
    {keywords : List (Label × Value)} {s t u : State}
    (hargs : evaluateArguments args context s = (.ok (positional, keywords), t))
    (hpassed : bundled positional keywords context t = (.ok passed, u)) :
    Begins context ⟨.node (.call callee args), s⟩ ⟨.node callee, u⟩
  | array {items : List Node} {s : State} :
    Begins context ⟨.node (.array items), s⟩ ⟨.items items, s⟩
  | tuple {items : List Node} {s : State} :
    Begins context ⟨.node (.tuple items), s⟩ ⟨.items items, s⟩
  | object {pairs : List (Node × Node)} {s : State} :
    Begins context ⟨.node (.object pairs), s⟩ ⟨.pairs pairs, s⟩
  | binaryLeft {operator : String} {left right : Node} {s : State} :
    Begins context ⟨.node (.binary operator left right), s⟩ ⟨.node left, s⟩
  | andRight {left right : Node} {v : Value} {s t u : State}
    (hleft : evaluate left context s = (.ok v, t)) (htruth : truth v context t = (.ok true, u)) :
    Begins context ⟨.node (.binary "and" left right), s⟩ ⟨.node right, u⟩
  | orRight {left right : Node} {v : Value} {s t u : State}
    (hleft : evaluate left context s = (.ok v, t)) (htruth : truth v context t = (.ok false, u)) :
    Begins context ⟨.node (.binary "or" left right), s⟩ ⟨.node right, u⟩
  | binaryRight {operator : String} {left right : Node} {v : Value} {s t : State}
    (hand : operator ≠ "and") (hor : operator ≠ "or")
    (hleft : evaluate left context s = (.ok v, t)) :
    Begins context ⟨.node (.binary operator left right), s⟩ ⟨.node right, t⟩
  | filterOperand {operand filter : Node} {s : State} :
    Begins context ⟨.node (.filter operand filter), s⟩ ⟨.node operand, s⟩
  | filterArguments {operand : Node} {name : String} {args : List Node} {v : Value} {s t : State}
    (hoperand : evaluate operand context s = (.ok v, t)) :
    Begins context ⟨.node (.filter operand (.call (.name name) args)), s⟩ ⟨.arguments args, t⟩
  | testOperand {operand test : Node} {negate : Bool} {args : List Node} {s : State} :
    Begins context ⟨.node (.test operand negate test args), s⟩ ⟨.node operand, s⟩
  | testArguments {operand test : Node} {negate : Bool} {args : List Node} {v : Value}
    {found : Test} {s t u : State} (hoperand : evaluate operand context s = (.ok v, t))
    (htest : findTest test.label? context t = (.ok found, u)) :
    Begins context ⟨.node (.test operand negate test args), s⟩ ⟨.arguments args, u⟩
  | unary {operator : String} {argument : Node} {s : State} :
    Begins context ⟨.node (.unary operator argument), s⟩ ⟨.node argument, s⟩
  | ternaryCondition {condition whenTrue whenFalse : Node} {s : State} :
    Begins context ⟨.node (.ternary condition whenTrue whenFalse), s⟩ ⟨.node condition, s⟩
  | ternaryTrue {condition whenTrue whenFalse : Node} {v : Value} {s t u : State}
    (hcondition : evaluate condition context s = (.ok v, t))
    (htruth : truth v context t = (.ok true, u)) :
    Begins context ⟨.node (.ternary condition whenTrue whenFalse), s⟩ ⟨.node whenTrue, u⟩
  | ternaryFalse {condition whenTrue whenFalse : Node} {v : Value} {s t u : State}
    (hcondition : evaluate condition context s = (.ok v, t))
    (htruth : truth v context t = (.ok false, u)) :
    Begins context ⟨.node (.ternary condition whenTrue whenFalse), s⟩ ⟨.node whenFalse, u⟩
  | blockHead {statement : Node} {rest : List Node} {s : State} :
    Begins context ⟨.block (statement :: rest), s⟩ ⟨.node statement, s⟩
  | blockTail {statement : Node} {rest : List Node} {v : Value} {text : Option String}
    {s t u : State} (hstatement : evaluate statement context s = (.ok v, t))
    (htext : contribution statement v context t = (.ok text, u)) :
    Begins context ⟨.block (statement :: rest), s⟩ ⟨.block rest, u⟩
  | itemsHead {item : Node} {rest : List Node} {s : State} :
    Begins context ⟨.items (item :: rest), s⟩ ⟨.node item, s⟩
  | itemsTail {item : Node} {rest : List Node} {v : Value} {s t : State}
    (hitem : evaluate item context s = (.ok v, t)) :
    Begins context ⟨.items (item :: rest), s⟩ ⟨.items rest, t⟩
  | keywordHead {key value : Node} {rest : List Node} {s : State} :
    Begins context ⟨.arguments (.keyword key value :: rest), s⟩ ⟨.node value, s⟩
  | keywordTail {key value : Node} {rest : List Node} {label : Label} {v : Value} {s t : State}
    (hkey : key.label? = some label) (hvalue : evaluate value context s = (.ok v, t)) :
    Begins context ⟨.arguments (.keyword key value :: rest), s⟩ ⟨.arguments rest, t⟩
  | argumentHead {arg : Node} {rest : List Node} {s : State}
    (harg : ∀ key value, arg ≠ .keyword key value) :
    Begins context ⟨.arguments (arg :: rest), s⟩ ⟨.node arg, s⟩
  | argumentTail {arg : Node} {rest : List Node} {v : Value} {s t : State}
    (harg : ∀ key value, arg ≠ .keyword key value) (hvalue : evaluate arg context s = (.ok v, t)) :
    Begins context ⟨.arguments (arg :: rest), s⟩ ⟨.arguments rest, t⟩
  | pairsKey {key value : Node} {rest : List (Node × Node)} {s : State} :
    Begins context ⟨.pairs ((key, value) :: rest), s⟩ ⟨.node key, s⟩
  | pairsValue {key value : Node} {rest : List (Node × Node)} {k : Value} {s t : State}
    (hkey : evaluate key context s = (.ok k, t)) (hlabels : k.isKey = true) :
    Begins context ⟨.pairs ((key, value) :: rest), s⟩ ⟨.node value, t⟩
  | pairsTail {key value : Node} {rest : List (Node × Node)} {k v : Value} {s t u : State}
    (hkey : evaluate key context s = (.ok k, t)) (hlabels : k.isKey = true)
    (hvalue : evaluate value context t = (.ok v, u)) :
    Begins context ⟨.pairs ((key, value) :: rest), s⟩ ⟨.pairs rest, u⟩
  | bound {node : Node} {s : State} : Begins context ⟨.bound (some node), s⟩ ⟨.node node, s⟩
  | roundBody {target : Node} {body : List Node} {length index : Nat} {previous item : Value}
    {rest : List Value} {s t : State}
    (hstart : startRound target length index previous item rest context s = (.ok (), t)) :
    Begins context ⟨.rounds target body length index previous (item :: rest), s⟩ ⟨.block body, t⟩
  | roundsTail {target : Node} {body : List Node} {length index : Nat} {previous item : Value}
    {rest : List Value} {text : String} {s t u : State}
    (hstart : startRound target length index previous item rest context s = (.ok (), t))
    (hbody : evaluateBlock body context t = (.ok text, u)) :
    Begins context ⟨.rounds target body length index previous (item :: rest), s⟩
      ⟨.rounds target body length (index + 1) item rest, u⟩

/-- An evaluation gets from one moment to another. -/
def Reaches (context : Context) : Moment → Moment → Prop := Relation.ReflTransGen (Begins context)

/-- Whatever moment an evaluation gets to is a good one. -/
def Throughout (context : Context) (good : Moment → Prop) (m : Moment) : Prop :=
  ∀ n, Reaches context m n → good n

namespace Throughout

variable {context : Context} {good : Moment → Prop} {m n : Moment}

theorem here (h : Throughout context good m) : good m := h m .refl

theorem begins (h : Throughout context good m) (hbegins : Begins context m n) :
    Throughout context good n :=
  fun o hreaches => h o (.head hbegins hreaches)

/-- What holds at the start and is carried on by each step holds throughout. -/
theorem of_step (invariant : Moment → Prop)
    (hstep : ∀ m n, Begins context m n → invariant m → invariant n)
    (hgood : ∀ m, invariant m → good m) (h : invariant m) : Throughout context good m := by
  intro n hreaches
  refine hgood n ?_
  induction hreaches with
  | refl => exact h
  | tail _ hbegins ih => exact hstep _ _ hbegins ih

end Throughout

end Eval

end TextTemplate
