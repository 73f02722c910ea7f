import TextTemplate.Node
import TextTemplate.Number.Decimal
import TextTemplate.Proofs.Syntax.Lexeme

/-!
# Writing syntax trees as tokens

The levels of precedence, and the tokens a tree is written as. A part of an expression stands in
parentheses only where its own level is looser than the level that its place asks for. A slice is
written with both colons, and the other branch of an `if` statement always behind `else`.
-/

namespace TextTemplate

/-! ## Levels of precedence -/

/-- The levels of precedence, from the loosest to the tightest. -/
inductive Precedence
  | ternary
  | or
  | and
  | not
  | comparison
  | additive
  | multiplicative
  | sign
  | test
  | filter
  | member
  | primary
  deriving DecidableEq, Repr

namespace Precedence

/-- The number of looser levels. -/
def rank : Precedence → Nat
  | ternary => 0
  | or => 1
  | and => 2
  | not => 3
  | comparison => 4
  | additive => 5
  | multiplicative => 6
  | sign => 7
  | test => 8
  | filter => 9
  | member => 10
  | primary => 11

/-- The next tighter level; nothing is tighter than a primary expression. -/
def tighter : Precedence → Precedence
  | ternary => or
  | or => and
  | and => not
  | not => comparison
  | comparison => additive
  | additive => multiplicative
  | multiplicative => sign
  | sign => test
  | test => filter
  | filter => member
  | member => primary
  | primary => primary

theorem rank_injective {a b : Precedence} (h : a.rank = b.rank) : a = b := by
  cases a <;> cases b <;> first | rfl | (simp [rank] at h)

theorem rank_tighter {level : Precedence} (h : level ≠ primary) :
    level.tighter.rank = level.rank + 1 := by
  cases level <;> first | rfl | exact absurd rfl h

/-- What holds of primary expressions, and of a level when it holds of the next tighter one, holds
of all levels. -/
theorem looser_induction {motive : Precedence → Prop} (hprimary : motive .primary)
    (hstep : ∀ level : Precedence, level ≠ .primary → motive level.tighter → motive level)
    (level : Precedence) : motive level := by
  have hmember := hstep .member (by decide) hprimary
  have hfilter := hstep .filter (by decide) hmember
  have htest := hstep .test (by decide) hfilter
  have hsign := hstep .sign (by decide) htest
  have hmultiplicative := hstep .multiplicative (by decide) hsign
  have hadditive := hstep .additive (by decide) hmultiplicative
  have hcomparison := hstep .comparison (by decide) hadditive
  have hnot := hstep .not (by decide) hcomparison
  have hand := hstep .and (by decide) hnot
  have hor := hstep .or (by decide) hand
  have hternary := hstep .ternary (by decide) hor
  cases level <;> assumption

end Precedence

/-- The level at which a token continues an operand that stands before it. -/
def TokenKind.continues? : TokenKind → Option Precedence
  | .if_ => some .ternary
  | .or => some .or
  | .and => some .and
  | .comparisonOperator | .in_ | .notIn => some .comparison
  | .additiveOperator => some .additive
  | .multiplicativeOperator => some .multiplicative
  | .is => some .test
  | .pipe => some .filter
  | .dot | .openSquareBracket | .openParen => some .member
  | _ => none

/-- The kind of the token of a binary operator. -/
def binaryKind (operator : String) : TokenKind :=
  (binaryOperators.lookup operator).getD .comparisonOperator

/-- The level of a binary operator. -/
def binaryPrecedence (operator : String) : Precedence :=
  (binaryKind operator).continues?.getD .comparison

namespace Node

/-- The level of precedence of an expression. -/
def precedence : Node → Precedence
  | ternary _ _ _ => .ternary
  | binary operator _ _ => binaryPrecedence operator
  | unary operator _ => if operator == "not" then .not else .sign
  | test _ _ _ _ => .test
  | filter _ _ => .filter
  | member _ _ _ => .member
  | call _ _ => .member
  | _ => .primary

end Node

/-! ## Tokens -/

namespace Token

/-- A name. Where a test is named, `true`, `false` and `none` are names too. -/
def ofName (name : String) : Token := ⟨(keyword? name.toList).getD .identifier, name⟩

def ofBool (value : Bool) : Token := ⟨.booleanLiteral, if value then "true" else "false"⟩

def ofInt (i : Int) : Token := ofChars .numericLiteral (integerChars i)

def ofBinary (operator : String) : Token := ⟨binaryKind operator, operator⟩

/-- Puts tokens in parentheses unless their level is at least the one that is due. -/
def enclosed (due own : Precedence) (tokens : List Token) : List Token :=
  if due.rank ≤ own.rank then tokens
  else ⟨.openParen, "("⟩ :: tokens ++ [⟨.closeParen, ")"⟩]

/-- Lists of tokens with commas between them. -/
def separated : List (List Token) → List Token
  | [] => []
  | tokens :: rest => tokens ++ rest.flatMap (⟨.comma, ","⟩ :: ·)

/-- A list in parentheses with commas between its parts. -/
def parenthesised (parts : List (List Token)) : List Token :=
  ⟨.openParen, "("⟩ :: separated parts ++ [⟨.closeParen, ")"⟩]

/-- What stands in the delimiters of a statement. -/
def inStatement (tokens : List Token) : List Token :=
  ⟨.openStatement, "\x7b%"⟩ :: tokens ++ [⟨.closeStatement, "%\x7d"⟩]

/-- What stands in the delimiters of an expression. -/
def inExpression (tokens : List Token) : List Token :=
  ⟨.openExpression, "\x7b\x7b"⟩ :: tokens ++ [⟨.closeExpression, "\x7d\x7d"⟩]

end Token

namespace Node

open Token

mutual

/-- The tokens of an expression, and of what stands in the brackets of a call or a subscript. -/
def tokens : Node → List Token
  | .name s => [ofName s]
  | .number (.int i) => [ofInt i]
  | .text s => [⟨.stringLiteral, s⟩]
  | .bool b => [ofBool b]
  | .null => [⟨.nullLiteral, "none"⟩]
  | .array items =>
    ⟨.openSquareBracket, "["⟩ :: separated (tokensOfAll items) ++ [⟨.closeSquareBracket, "]"⟩]
  | .tuple items => parenthesised (tokensOfAll items)
  | .object pairs =>
    ⟨.openCurlyBracket, "\x7b"⟩ :: separated (tokensOfPairs pairs) ++
      [⟨.closeCurlyBracket, "\x7d"⟩]
  | .ternary condition whenTrue whenFalse =>
    enclosed .or whenTrue.precedence (tokens whenTrue) ++
      ⟨.if_, "if"⟩ :: enclosed .or condition.precedence (tokens condition) ++
      ⟨.else_, "else"⟩ :: enclosed .or whenFalse.precedence (tokens whenFalse)
  | .binary operator left right =>
    let level := binaryPrecedence operator
    enclosed level left.precedence (tokens left) ++
      ofBinary operator :: enclosed level.tighter right.precedence (tokens right)
  | .unary operator argument =>
    ⟨.unaryOperator, operator⟩ ::
      enclosed (unary operator argument).precedence argument.precedence (tokens argument)
  | .test operand negate predicate args =>
    enclosed .test operand.precedence (tokens operand) ++
      ⟨.is, "is"⟩ :: (if negate then [⟨.unaryOperator, "not"⟩] else []) ++ tokens predicate ++
      (if args.isEmpty then [] else parenthesised (tokensOfAll args))
  | .filter operand applied =>
    enclosed .filter operand.precedence (tokens operand) ++ ⟨.pipe, "|"⟩ :: tokens applied
  | .member owner property false =>
    enclosed .member owner.precedence (tokens owner) ++ ⟨.dot, "."⟩ :: tokens property
  | .member owner property true =>
    enclosed .member owner.precedence (tokens owner) ++
      ⟨.openSquareBracket, "["⟩ :: tokens property ++ [⟨.closeSquareBracket, "]"⟩]
  | .call callee args =>
    enclosed .member callee.precedence (tokens callee) ++ parenthesised (tokensOfAll args)
  | .slice start stop step =>
    tokensOfPart start ++ ⟨.colon, ":"⟩ :: tokensOfPart stop ++ ⟨.colon, ":"⟩ :: tokensOfPart step
  | .keyword key value => tokens key ++ ⟨.equals, "="⟩ :: tokens value
  | .set target value => tokens target ++ ⟨.equals, "="⟩ :: tokens value
  | _ => []

def tokensOfAll : List Node → List (List Token)
  | [] => []
  | node :: rest => tokens node :: tokensOfAll rest

def tokensOfPairs : List (Node × Node) → List (List Token)
  | [] => []
  | (key, value) :: rest => (tokens key ++ ⟨.colon, ":"⟩ :: tokens value) :: tokensOfPairs rest

def tokensOfPart : Option Node → List Token
  | none => []
  | some node => tokens node

end

attribute [simp] tokens tokensOfAll tokensOfPairs tokensOfPart

/-- The tokens of an expression where an expression of the given level is due. -/
def tokensAt (level : Precedence) (node : Node) : List Token :=
  enclosed level node.precedence node.tokens

/-- The target of a loop: a name, or primary expressions with commas between them. -/
def targetTokens : Node → List Token
  | .tuple items => separated (items.map (tokensAt .primary))
  | node => node.tokens

mutual

/-- The tokens of a statement with its delimiters. -/
def statementTokens : Node → List Token
  | .text s => [⟨.text, s⟩]
  | .set target value => inStatement (⟨.set, "set"⟩ :: (set target value).tokens)
  | .branch condition body alternate =>
    inStatement (⟨.if_, "if"⟩ :: condition.tokens) ++ blockTokens body ++
      (if alternate.isEmpty then [] else inStatement [⟨.else_, "else"⟩] ++ blockTokens alternate) ++
      inStatement [⟨.endIf, "endif"⟩]
  | .loop target iterable body =>
    inStatement (⟨.for_, "for"⟩ :: target.targetTokens ++ ⟨.in_, "in"⟩ :: iterable.tokens) ++
      blockTokens body ++ inStatement [⟨.endFor, "endfor"⟩]
  | node => inExpression node.tokens

def blockTokens : List Node → List Token
  | [] => []
  | node :: rest => statementTokens node ++ blockTokens rest

end

attribute [simp] statementTokens blockTokens

/-- The tokens of a template. -/
def toTokens : Node → List Token
  | .program body => blockTokens body
  | node => node.statementTokens

end Node

end TextTemplate
