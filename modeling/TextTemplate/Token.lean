/-!
Tokens of a template: runs of plain text, the delimiters of tags, and what stands inside tags.
-/

namespace TextTemplate

inductive TokenKind
  | text
  | numericLiteral
  | booleanLiteral
  | nullLiteral
  | stringLiteral
  | identifier
  | equals
  | openParen
  | closeParen
  | openStatement
  | closeStatement
  | openExpression
  | closeExpression
  | openSquareBracket
  | closeSquareBracket
  | openCurlyBracket
  | closeCurlyBracket
  | comma
  | dot
  | colon
  | pipe
  | callOperator
  | additiveOperator
  | multiplicativeOperator
  | comparisonOperator
  | unaryOperator
  | set
  | if_
  | for_
  | in_
  | is
  | notIn
  | else_
  | endIf
  | elseIf
  | endFor
  | and
  | or
  deriving DecidableEq, Repr

namespace TokenKind

/-- The name of a kind in messages. -/
def name : TokenKind → String
  | text => "Text"
  | numericLiteral => "NumericLiteral"
  | booleanLiteral => "BooleanLiteral"
  | nullLiteral => "NullLiteral"
  | stringLiteral => "StringLiteral"
  | identifier => "Identifier"
  | equals => "Equals"
  | openParen => "OpenParen"
  | closeParen => "CloseParen"
  | openStatement => "OpenStatement"
  | closeStatement => "CloseStatement"
  | openExpression => "OpenExpression"
  | closeExpression => "CloseExpression"
  | openSquareBracket => "OpenSquareBracket"
  | closeSquareBracket => "CloseSquareBracket"
  | openCurlyBracket => "OpenCurlyBracket"
  | closeCurlyBracket => "CloseCurlyBracket"
  | comma => "Comma"
  | dot => "Dot"
  | colon => "Colon"
  | pipe => "Pipe"
  | callOperator => "CallOperator"
  | additiveOperator => "AdditiveBinaryOperator"
  | multiplicativeOperator => "MultiplicativeBinaryOperator"
  | comparisonOperator => "ComparisonBinaryOperator"
  | unaryOperator => "UnaryOperator"
  | set => "Set"
  | if_ => "If"
  | for_ => "For"
  | in_ => "In"
  | is => "Is"
  | notIn => "NotIn"
  | else_ => "Else"
  | endIf => "EndIf"
  | elseIf => "ElseIf"
  | endFor => "EndFor"
  | and => "And"
  | or => "Or"

def all : List TokenKind :=
  [text, numericLiteral, booleanLiteral, nullLiteral, stringLiteral, identifier, equals, openParen,
    closeParen, openStatement, closeStatement, openExpression, closeExpression,
    openSquareBracket, closeSquareBracket, openCurlyBracket, closeCurlyBracket, comma, dot, colon,
    pipe, callOperator, additiveOperator, multiplicativeOperator, comparisonOperator,
    unaryOperator, set, if_, for_, in_, is, notIn, else_, endIf, elseIf, endFor, and, or]

def ofName? (name : String) : Option TokenKind := all.find? (·.name == name)

end TokenKind

/-- A kind with the text it was read from; of a string literal, the text it denotes. -/
structure Token where
  kind : TokenKind
  value : String
  deriving DecidableEq, Repr

end TextTemplate
