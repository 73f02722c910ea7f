import TextTemplate.Token
import TextTemplate.Source
import TextTemplate.Report
import TextTemplate.Text.Word

/-!
Reading the text of a template as tokens. Outside tags, everything up to the next opening delimiter
is one token of text; inside, white space separates tokens. Whether a sign belongs to the number
after it hangs on the token before it.
-/

namespace TextTemplate

/-- What stops the reading of a text. -/
inductive LexFault
  | unexpectedEnd
  | unknownEscape (char : Char)
  | unexpectedChar (char : Char)
  deriving DecidableEq, Repr

/-- A fault and where it is, counted in the text as it is read. -/
structure LexError where
  fault : LexFault
  position : Nat
  deriving DecidableEq, Repr

def LexError.report (e : LexError) : Report :=
  let position := ("position", Data.ofNat e.position)
  match e.fault with
  | .unexpectedEnd => ⟨.lexical, "Unexpected end of input", [position], ErrorClass.lexical.code⟩
  | .unknownEscape c =>
    ⟨.lexical, "Unexpected escaped character: " ++ Text.quoted c.toString,
      [position, ("char", .text c.toString)], ErrorClass.lexical.code⟩
  | .unexpectedChar c =>
    ⟨.lexical, "Unexpected character: " ++ Text.quoted c.toString,
      [position, ("char", .text c.toString)], ErrorClass.lexical.code⟩

namespace Token

/-- A fault with the number of characters from it to the end of the text. -/
abbrev Scan (α : Type) := Except (LexFault × Nat) α

def keyword? : List Char → Option TokenKind
  | ['s', 'e', 't'] => some .set
  | ['f', 'o', 'r'] => some .for_
  | ['i', 'n'] => some .in_
  | ['i', 's'] => some .is
  | ['i', 'f'] => some .if_
  | ['e', 'l', 's', 'e'] => some .else_
  | ['e', 'n', 'd', 'i', 'f'] => some .endIf
  | ['e', 'l', 'i', 'f'] => some .elseIf
  | ['e', 'n', 'd', 'f', 'o', 'r'] => some .endFor
  | ['a', 'n', 'd'] => some .and
  | ['o', 'r'] => some .or
  | ['n', 'o', 't'] => some .unaryOperator
  | ['t', 'r', 'u', 'e'] => some .booleanLiteral
  | ['f', 'a', 'l', 's', 'e'] => some .booleanLiteral
  | ['n', 'o', 'n', 'e'] => some .nullLiteral
  | _ => none

/-- The delimiters and operators. The first one that fits is taken, so the longer ones come
first. -/
def symbols : List (List Char × TokenKind) :=
  [(['{', '%'], .openStatement),
    (['%', '}'], .closeStatement),
    (['{', '{'], .openExpression),
    (['}', '}'], .closeExpression),
    (['('], .openParen),
    ([')'], .closeParen),
    (['{'], .openCurlyBracket),
    (['}'], .closeCurlyBracket),
    (['['], .openSquareBracket),
    ([']'], .closeSquareBracket),
    ([','], .comma),
    (['.'], .dot),
    ([':'], .colon),
    (['|'], .pipe),
    (['<', '='], .comparisonOperator),
    (['>', '='], .comparisonOperator),
    (['=', '='], .comparisonOperator),
    (['!', '='], .comparisonOperator),
    (['<'], .comparisonOperator),
    (['>'], .comparisonOperator),
    (['+'], .additiveOperator),
    (['-'], .additiveOperator),
    (['~'], .additiveOperator),
    (['*'], .multiplicativeOperator),
    (['/', '/'], .multiplicativeOperator),
    (['/'], .multiplicativeOperator),
    (['%'], .multiplicativeOperator),
    (['='], .equals)]

/-- The character that a letter after a backslash stands for. -/
def escape? : Char → Option Char
  | 'n' => some '\n'
  | 't' => some '\t'
  | 'r' => some '\r'
  | 'b' => some '\x08'
  | 'f' => some '\x0c'
  | 'v' => some '\x0b'
  | '\'' => some '\''
  | '"' => some '"'
  | '\\' => some '\\'
  | _ => none

/-- Whether an operand may end with a token of this kind; a sign after it is an operator. -/
def endsOperand : TokenKind → Bool
  | .identifier | .numericLiteral | .booleanLiteral | .nullLiteral | .stringLiteral
  | .closeParen | .closeSquareBracket => true
  | _ => false

/-- Whether the text after a token of this kind is outside tags; so is the start of a text. -/
def leavesTag : Option TokenKind → Bool
  | none | some .closeStatement | some .closeExpression => true
  | _ => false

def opensTag : List Char → Bool
  | '{' :: '%' :: _ => true
  | '{' :: '{' :: _ => true
  | _ => false

/-- Splits a text before its first opening delimiter. -/
def spanText : List Char → List Char × List Char
  | [] => ([], [])
  | c :: rest =>
    if opensTag (c :: rest) then ([], c :: rest)
    else
      let (text, after) := spanText rest
      (c :: text, after)

/-- The contents of a string literal up to the closing quote, and what follows that. -/
def scanString (quote : Char) : List Char → Scan (List Char × List Char)
  | [] => .error (.unexpectedEnd, 0)
  | c :: rest =>
    if c == quote then .ok ([], rest)
    else if c == '\\' then
      match rest with
      | [] => .error (.unexpectedEnd, 0)
      | letter :: rest =>
        match escape? letter with
        | none => .error (.unknownEscape letter, rest.length + 1)
        | some char => do
          let (chars, after) ← scanString quote rest
          .ok (char :: chars, after)
    else do
      let (chars, after) ← scanString quote rest
      .ok (c :: chars, after)

def ofChars (kind : TokenKind) (cs : List Char) : Token := ⟨kind, String.ofList cs⟩

/-- The first symbol that starts the text. -/
def scanSymbol? (cs : List Char) : Option (Token × List Char) :=
  symbols.findSome? fun (lexeme, kind) =>
    if lexeme.isPrefixOf cs then some (ofChars kind lexeme, cs.drop lexeme.length) else none

/-- A sign where no operand ends: part of a number when a digit follows, else an operator. -/
def scanSign (sign : Char) (rest : List Char) : Token × List Char :=
  match rest.takeWhile Char.isDigit with
  | [] => (ofChars .unaryOperator [sign], rest)
  | digits => (ofChars .numericLiteral (sign :: digits), rest.dropWhile Char.isDigit)

/-- The token that the text inside a tag starts with. -/
def scanInTag (last : Option TokenKind) (c : Char) (rest : List Char) : Scan (Token × List Char) :=
  if (c == '+' || c == '-') && !last.any endsOperand then .ok (scanSign c rest)
  else match scanSymbol? (c :: rest) with
    | some found => .ok found
    | none =>
      if c == '\'' || c == '"' then do
        let (chars, after) ← scanString c rest
        .ok (ofChars .stringLiteral chars, after)
      else if c.isDigit then
        .ok (ofChars .numericLiteral (c :: rest.takeWhile Char.isDigit),
          rest.dropWhile Char.isDigit)
      else if Text.isWordChar c then
        let word := c :: rest.takeWhile Text.isWordChar
        .ok (ofChars ((keyword? word).getD .identifier) word, rest.dropWhile Text.isWordChar)
      else .error (.unexpectedChar c, rest.length + 1)

/-- The next token after one of kind `last`, none at the end of the text. -/
def scanNext (last : Option TokenKind) (cs : List Char) : Scan (Option (Token × List Char)) :=
  match leavesTag last, spanText cs with
  | true, (c :: text, after) => .ok (some (ofChars .text (c :: text), after))
  | _, _ =>
    match cs.dropWhile Text.isBlank with
    | [] => .ok none
    | c :: rest => some <$> scanInTag last c rest

/-- All tokens of a text. Each takes at least one character, so a text has no more tokens than
characters, which bounds the first argument. -/
def scanFrom : Nat → Option TokenKind → List Char → Scan (List Token)
  | 0, _, _ => .ok []
  | bound + 1, last, cs => do
    match ← scanNext last cs with
    | none => .ok []
    | some (token, rest) => do
      let tokens ← scanFrom bound (some token.kind) rest
      .ok (token :: tokens)

/-- Makes one operator of `not` and a following `in`. -/
def joinNotIn : List Token → List Token
  | first :: second :: rest =>
    if first == ⟨.unaryOperator, "not"⟩ && second.kind == .in_ then
      ⟨.notIn, "not in"⟩ :: joinNotIn rest
    else first :: joinNotIn (second :: rest)
  | tokens => tokens

/-- The tokens of a text to which white space control has been applied. -/
def scan (cs : List Char) : Scan (List Token) := joinNotIn <$> scanFrom cs.length none cs

/-- The tokens of a template. -/
def ofSource (trimming : Source.Trimming) (source : String) : Except LexError (List Token) :=
  let cs := Source.prepareChars trimming source.toList
  match scan cs with
  | .ok tokens => .ok tokens
  | .error (fault, remaining) => .error ⟨fault, cs.length - remaining⟩

end Token

end TextTemplate
