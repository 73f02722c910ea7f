import TextTemplate.Node
import TextTemplate.Token
import TextTemplate.Number.Numeral
import TextTemplate.Report

/-!
Reading tokens as a syntax tree. Every level of precedence is a parser made from the next tighter
one, from the loosest to the tightest: ternary, `or`, `and`, `not`, comparison, additive,
multiplicative, sign, test, filter, call and member, primary. Only brackets lead back from the
tightest level to the loosest, and a bracket takes a token, so the number of tokens bounds their
nesting. Likewise each round of a loop takes a token.
-/

namespace TextTemplate

/-- Why a list of tokens is no template. -/
inductive ParseError
  | unexpectedEnd
  | expected (what : String) (kind : TokenKind) (found : Option Token)
  | outsideTag (token : Token)
  | unknownStatement (token : Token)
  | unclosedBlock (terminators : List TokenKind)
  | loopTarget (kindName : String)
  | testName (kindName : String)
  | filterName (kindName : String)
  | memberName (kindName : String)
  | keywordName (kindName : String)
  | unclosedSubscript
  | unclosedArguments
  | emptySubscript
  | longSlice (parts : Nat)
  | notAnOperand (token : Token)
  | numeralTooLong (digits : Nat)
  | noNumeral (text : String)

namespace ParseError

/-- How much of a text that is no numeral is quoted, the quotes included. -/
def quotationLimit : Nat := 200

private def structural (message : String) (details : List (String × Data)) : Problem :=
  .reported ⟨.structural, message, details, ErrorClass.structural.code⟩

private def wrongNode (what kindName : String) : Problem :=
  structural ("Expected identifier " ++ what ++ ", got " ++ kindName) [("found", .text kindName)]

def problem : ParseError → Problem
  | unexpectedEnd => structural "Unexpected end of input" []
  | expected what kind none =>
    structural ("Expected " ++ what ++ ": unexpected end of input") [("expected", .text kind.name)]
  | expected what kind (some token) =>
    structural
      ("Expected " ++ what ++ ": got " ++ token.kind.name ++ " " ++ Text.quoted token.value)
      [("expected", .text kind.name), ("found", .text token.kind.name)]
  | outsideTag token =>
    structural ("Unexpected token type: " ++ token.kind.name) [("token", .text token.value)]
  | unknownStatement token =>
    structural ("Unknown statement type: " ++ token.kind.name) [("token", .text token.value)]
  | unclosedBlock terminators =>
    let names := terminators.map TokenKind.name
    structural ("Unexpected end of input: expected " ++ " or ".intercalate names)
      [("expected", .texts names)]
  | loopTarget kindName =>
    structural ("Expected identifier/tuple for the loop variable, got " ++ kindName ++ " instead")
      [("found", .text kindName)]
  | testName kindName => wrongNode "for the test" kindName
  | filterName kindName => wrongNode "for the filter" kindName
  | memberName kindName => wrongNode "following dot operator" kindName
  | keywordName kindName => wrongNode "for keyword argument" kindName
  | unclosedSubscript => structural "Unexpected end of input: expected ]" []
  | unclosedArguments => structural "Unexpected end of input: expected )" []
  | emptySubscript =>
    structural "Expected at least one argument for member/slice expression" []
  | longSlice parts =>
    structural "Expected 0-3 arguments for slice expression" [("found", .ofNat parts)]
  | notAnOperand token =>
    structural ("Unexpected token: " ++ token.kind.name ++ " " ++ Text.quoted token.value)
      [("token", .text token.value), ("kind", .text token.kind.name)]
  | numeralTooLong digits => .numeralTooLong (some digits)
  | noNumeral text =>
    .badValue ("invalid literal for int() with base 10: " ++
      String.ofList ((Text.quotedChars text.toList).take quotationLimit))

end ParseError

/-- A parser takes tokens from the front of a list and leaves the rest. -/
abbrev Parse (α : Type) := List Token → Except ParseError (α × List Token)

namespace Parse

def nextIs (kind : TokenKind) : List Token → Bool
  | [] => false
  | token :: _ => token.kind == kind

/-- Takes a token of the given kind. -/
def expect (kind : TokenKind) (what : String) : List Token → Except ParseError (List Token)
  | [] => .error (.expected what kind none)
  | token :: rest =>
    if token.kind == kind then .ok rest else .error (.expected what kind (some token))

/-- The whole number that a numeral denotes. -/
def numeral (text : String) : Except ParseError Int :=
  match Numeral.wholeOfChars text.toList with
  | .ok i => .ok i
  | .error .malformed => .error (.noNumeral text)
  | .error (.tooLong digits) => .error (.numeralTooLong digits)

/-- Items up to a closing token, with commas between them and one allowed after the last. -/
def itemsUntil {α : Type} (close : TokenKind) (comma : String) (item : Parse α) :
    Nat → Parse (List α)
  | 0, _ => .error .unexpectedEnd
  | bound + 1, tokens =>
    if nextIs close tokens then .ok ([], tokens)
    else do
      let (first, tokens) ← item tokens
      if nextIs close tokens then .ok ([first], tokens)
      else
        let tokens ← expect .comma comma tokens
        let (others, tokens) ← itemsUntil close comma item bound tokens
        .ok (first :: others, tokens)

/-- Items and the token that closes them. -/
def items {α : Type} (close : TokenKind) (comma closing : String) (item : Parse α) :
    Parse (List α) := fun tokens => do
  let (found, tokens) ← itemsUntil close comma item (tokens.length + 1) tokens
  let tokens ← expect close closing tokens
  .ok (found, tokens)

/-- Grows a node as long as the tokens after it continue it. -/
def extend (step : Node → List Token → Except ParseError (Option (Node × List Token))) :
    Nat → Node → Parse Node
  | 0, node, tokens => .ok (node, tokens)
  | bound + 1, node, tokens => do
    match ← step node tokens with
    | none => .ok (node, tokens)
    | some (node, tokens) => extend step bound node tokens

/-- Further items after commas. -/
def afterCommas (item : Parse Node) : Nat → Parse (List Node)
  | 0, tokens => .ok ([], tokens)
  | bound + 1, tokens =>
    match tokens with
    | ⟨.comma, _⟩ :: rest => do
      let (first, tokens) ← item rest
      let (others, tokens) ← afterCommas item bound tokens
      .ok (first :: others, tokens)
    | _ => .ok ([], tokens)

/-- One item, or several with commas between them as a tuple. -/
def sequence (item : Parse Node) : Parse Node := fun tokens => do
  let (first, tokens) ← item tokens
  let (others, tokens) ← afterCommas item tokens.length tokens
  .ok (if others.isEmpty then first else .tuple (first :: others), tokens)

/-- A key, a colon and a value. -/
def pair (expression : Parse Node) : Parse (Node × Node) := fun tokens => do
  let (key, tokens) ← expression tokens
  let tokens ← expect .colon "colon in object literal" tokens
  let (value, tokens) ← expression tokens
  .ok ((key, value), tokens)

/-- An operand that is one token or stands in brackets. -/
def primary (expression : Parse Node) : Parse Node
  | [] => .error .unexpectedEnd
  | token :: rest =>
    match token.kind with
    | .numericLiteral => do
      let value ← numeral token.value
      .ok (.number (.int value), rest)
    | .stringLiteral => .ok (.text token.value, rest)
    | .booleanLiteral => .ok (.bool (token.value == "true"), rest)
    | .nullLiteral => .ok (.null, rest)
    | .identifier => .ok (.name token.value, rest)
    | .openParen => do
      let (node, rest) ← sequence expression rest
      let rest ← expect .closeParen "closing parenthesis" rest
      .ok (node, rest)
    | .openSquareBracket => do
      let (found, rest) ←
        items .closeSquareBracket "comma in array literal" "closing square bracket" expression rest
      .ok (.array found, rest)
    | .openCurlyBracket => do
      let (found, rest) ←
        items .closeCurlyBracket "comma in object literal" "closing curly bracket"
          (pair expression) rest
      .ok (.object found, rest)
    | _ => .error (.notAnOperand token)

/-- An argument, perhaps named. -/
def argument (expression : Parse Node) : Parse Node
  | [] => .error .unclosedArguments
  | tokens => do
    let (node, tokens) ← expression tokens
    match tokens with
    | ⟨.equals, _⟩ :: rest =>
      match node with
      | .name _ => do
        let (value, rest) ← expression rest
        .ok (.keyword node value, rest)
      | _ => .error (.keywordName node.kindName)
    | _ => .ok (node, tokens)

/-- Arguments in parentheses. -/
def arguments (expression : Parse Node) : Parse (List Node) := fun tokens => do
  let tokens ← expect .openParen "opening parenthesis for arguments list" tokens
  items .closeParen "comma between arguments" "closing parenthesis for arguments list"
    (argument expression) tokens

/-- The parts of a subscript up to its closing bracket, and whether a colon was among them. A colon
belongs to the part before it; one with no part before it stands for an absent part. -/
def subscriptParts (expression : Parse Node) : Nat → Parse (List (Option Node) × Bool)
  | 0, _ => .error .unclosedSubscript
  | bound + 1, tokens =>
    match tokens with
    | [] => .error .unclosedSubscript
    | ⟨.closeSquareBracket, _⟩ :: _ => .ok (([], false), tokens)
    | ⟨.colon, _⟩ :: rest => do
      let ((parts, _), rest) ← subscriptParts expression bound rest
      .ok ((none :: parts, true), rest)
    | _ => do
      let (part, rest) ← expression tokens
      match rest with
      | ⟨.colon, _⟩ :: rest => do
        let ((parts, _), rest) ← subscriptParts expression bound rest
        .ok ((some part :: parts, true), rest)
      | _ => do
        let ((parts, sliced), rest) ← subscriptParts expression bound rest
        .ok ((some part :: parts, sliced), rest)

/-- What the parts of a subscript denote: without a colon the first part, else a slice. -/
def subscriptNode : List (Option Node) × Bool → Except ParseError Node
  | ([], _) => .error .emptySubscript
  | (parts, true) =>
    match parts with
    | [] | [_] | [_, _] | [_, _, _] =>
      .ok (.slice (parts[0]?.getD none) (parts[1]?.getD none) (parts[2]?.getD none))
    | _ => .error (.longSlice parts.length)
  | (some node :: _, false) => .ok node
  | (none :: _, false) => .error .emptySubscript

/-- What stands in the brackets of a subscript. -/
def subscript (expression : Parse Node) : Parse Node := fun tokens => do
  let (parts, tokens) ← subscriptParts expression (tokens.length + 1) tokens
  let node ← subscriptNode parts
  .ok (node, tokens)

/-- Reads a name where one is due. -/
def nameOr (error : String → ParseError) (expression : Parse Node) : Parse Node := fun tokens => do
  let (node, tokens) ← primary expression tokens
  match node with
  | .name _ => .ok (node, tokens)
  | _ => .error (error node.kindName)

/-- A member access, a subscript or a call after an operand. -/
def memberStep (expression : Parse Node) (node : Node) :
    List Token → Except ParseError (Option (Node × List Token))
  | ⟨.dot, _⟩ :: rest => do
    let (property, rest) ← nameOr .memberName expression rest
    .ok (some (.member node property false, rest))
  | ⟨.openSquareBracket, _⟩ :: rest => do
    let (property, rest) ← subscript expression rest
    let rest ← expect .closeSquareBracket "closing square bracket" rest
    .ok (some (.member node property true, rest))
  | ⟨.openParen, value⟩ :: rest => do
    let (args, rest) ← arguments expression (⟨.openParen, value⟩ :: rest)
    .ok (some (.call node args, rest))
  | _ => .ok none

def callMember (expression : Parse Node) : Parse Node := fun tokens => do
  let (node, tokens) ← primary expression tokens
  extend (memberStep expression) tokens.length node tokens

/-- A filter after an operand. -/
def filterStep (expression : Parse Node) (node : Node) :
    List Token → Except ParseError (Option (Node × List Token))
  | ⟨.pipe, _⟩ :: rest => do
    let (name, rest) ← nameOr .filterName expression rest
    if nextIs .openParen rest then
      let (args, rest) ← arguments expression rest
      .ok (some (.filter node (.call name args), rest))
    else .ok (some (.filter node name, rest))
  | _ => .ok none

def filters (expression : Parse Node) : Parse Node := fun tokens => do
  let (node, tokens) ← callMember expression tokens
  extend (filterStep expression) tokens.length node tokens

def isNot (token : Token) : Bool := token.kind == .unaryOperator && token.value == "not"

def isSign (token : Token) : Bool :=
  token.kind == .unaryOperator && (token.value == "-" || token.value == "+")

/-- The name of a test; the literals `true`, `false` and `none` are names here. -/
def testName : Node → Except ParseError Node
  | .bool value => .ok (.name (if value then "true" else "false"))
  | .null => .ok (.name "none")
  | .name value => .ok (.name value)
  | node => .error (.testName node.kindName)

/-- A test after an operand. -/
def testStep (expression : Parse Node) (node : Node) :
    List Token → Except ParseError (Option (Node × List Token))
  | ⟨.is, _⟩ :: rest => do
    let negate := match rest with
      | [] => false
      | token :: _ => isNot token
    let rest := if negate then rest.drop 1 else rest
    let (name, rest) ← primary expression rest
    let name ← testName name
    if nextIs .openParen rest then
      let (args, rest) ← arguments expression rest
      .ok (some (.test node negate name args, rest))
    else .ok (some (.test node negate name [], rest))
  | _ => .ok none

def tests (expression : Parse Node) : Parse Node := fun tokens => do
  let (node, tokens) ← filters expression tokens
  extend (testStep expression) tokens.length node tokens

/-- Operators in front of an operand. -/
def unary (isOperator : Token → Bool) (operand : Parse Node) : Parse Node
  | [] => operand []
  | token :: rest =>
    if isOperator token then do
      let (node, rest) ← unary isOperator operand rest
      .ok (.unary token.value node, rest)
    else operand (token :: rest)

/-- An operator and its right operand after the left one. -/
def binaryStep (isOperator : TokenKind → Bool) (operand : Parse Node) (left : Node) :
    List Token → Except ParseError (Option (Node × List Token))
  | [] => .ok none
  | token :: rest =>
    if isOperator token.kind then do
      let (right, rest) ← operand rest
      .ok (some (.binary token.value left right, rest))
    else .ok none

/-- Operands with operators between them, grouped from the left. -/
def binary (isOperator : TokenKind → Bool) (operand : Parse Node) : Parse Node := fun tokens => do
  let (left, tokens) ← operand tokens
  extend (binaryStep isOperator operand) tokens.length left tokens

def multiplicative (expression : Parse Node) : Parse Node :=
  binary (· == .multiplicativeOperator) (unary isSign (tests expression))

def additive (expression : Parse Node) : Parse Node :=
  binary (· == .additiveOperator) (multiplicative expression)

def comparison (expression : Parse Node) : Parse Node :=
  binary (fun kind => kind == .comparisonOperator || kind == .in_ || kind == .notIn)
    (additive expression)

def conjunction (expression : Parse Node) : Parse Node :=
  binary (· == .and) (unary isNot (comparison expression))

def disjunction (expression : Parse Node) : Parse Node :=
  binary (· == .or) (conjunction expression)

/-- A choice between two expressions. Its parts are no choices unless they stand in brackets. -/
def ternary (expression : Parse Node) : Parse Node := fun tokens => do
  let (whenTrue, tokens) ← disjunction expression tokens
  match tokens with
  | ⟨.if_, _⟩ :: rest => do
    let (condition, rest) ← disjunction expression rest
    let rest ← expect .else_ "else token" rest
    let (whenFalse, rest) ← disjunction expression rest
    .ok (.ternary condition whenTrue whenFalse, rest)
  | _ => .ok (whenTrue, tokens)

/-- Expressions whose brackets are nested less deep than the bound. -/
def expressionWithin : Nat → Parse Node
  | 0, _ => .error .unexpectedEnd
  | bound + 1, tokens => ternary (expressionWithin bound) tokens

def expression : Parse Node := fun tokens => expressionWithin (tokens.length + 1) tokens

/-- The rest of a `set` statement: an expression, or a target and what it is set to. -/
def setWithin : Nat → Parse Node
  | 0, _ => .error .unexpectedEnd
  | bound + 1, tokens => do
    let (node, tokens) ← expression tokens
    match tokens with
    | ⟨.equals, _⟩ :: rest => do
      let (value, rest) ← setWithin bound rest
      .ok (.set node value, rest)
    | _ => .ok (node, tokens)

/-- Whether a block ends here: an opening delimiter and one of the terminators. -/
def atTerminator (terminators : List TokenKind) : List Token → Bool
  | first :: second :: _ => first.kind == .openStatement && terminators.contains second.kind
  | _ => false

/-- Statements up to a terminator. -/
def blockWithin (terminators : List TokenKind) (statement : Parse Node) : Nat → Parse (List Node)
  | 0, _ => .error (.unclosedBlock terminators)
  | bound + 1, tokens =>
    if atTerminator terminators tokens then .ok ([], tokens)
    else if tokens.isEmpty then .error (.unclosedBlock terminators)
    else do
      let (first, tokens) ← statement tokens
      let (others, tokens) ← blockWithin terminators statement bound tokens
      .ok (first :: others, tokens)

def block (terminators : List TokenKind) (statement : Parse Node) : Parse (List Node) :=
  fun tokens => blockWithin terminators statement (tokens.length + 1) tokens

/-- The rest of an `if` statement up to its end, which is not taken. An `elif` is an `if` statement
alone in the other branch. -/
def ifWithin (statement : Parse Node) : Nat → Parse Node
  | 0, _ => .error .unexpectedEnd
  | bound + 1, tokens => do
    let (test, tokens) ← expression tokens
    let tokens ← expect .closeStatement "closing statement token" tokens
    let (body, tokens) ← block [.elseIf, .else_, .endIf] statement tokens
    match tokens with
    | ⟨.openStatement, _⟩ :: ⟨.elseIf, _⟩ :: rest => do
      let (alternate, rest) ← ifWithin statement bound rest
      .ok (.branch test body [alternate], rest)
    | ⟨.openStatement, _⟩ :: ⟨.else_, _⟩ :: rest => do
      let rest ← expect .closeStatement "closing statement token" rest
      let (alternate, rest) ← block [.endIf] statement rest
      .ok (.branch test body alternate, rest)
    | _ => .ok (.branch test body [], tokens)

/-- The rest of a `for` statement up to its end, which is not taken. -/
def forLoop (statement : Parse Node) : Parse Node := fun tokens => do
  let (target, tokens) ← sequence (primary expression) tokens
  match target with
  | .name _ | .tuple _ => do
    let tokens ← expect .in_ "\x60in\x60 keyword following loop variable" tokens
    let (iterable, tokens) ← expression tokens
    let tokens ← expect .closeStatement "closing statement token" tokens
    let (body, tokens) ← block [.endFor] statement tokens
    .ok (.loop target iterable body, tokens)
  | node => .error (.loopTarget node.kindName)

/-- The tag that ends a statement with a body. -/
def closing (kind : TokenKind) (what : String) (tokens : List Token) :
    Except ParseError (List Token) := do
  let tokens ← expect .openStatement "\x7b% token" tokens
  let tokens ← expect kind what tokens
  expect .closeStatement "%\x7d token" tokens

/-- What stands in the delimiters of a statement, and the body if it has one. -/
def statementBody (statement : Parse Node) : Parse Node
  | [] => .error .unexpectedEnd
  | token :: rest =>
    match token.kind with
    | .set => do
      let (node, rest) ← setWithin (rest.length + 1) rest
      let rest ← expect .closeStatement "closing statement token" rest
      .ok (node, rest)
    | .if_ => do
      let (node, rest) ← ifWithin statement (rest.length + 1) rest
      let rest ← closing .endIf "endif token" rest
      .ok (node, rest)
    | .for_ => do
      let (node, rest) ← forLoop statement rest
      let rest ← closing .endFor "endfor token" rest
      .ok (node, rest)
    | _ => .error (.unknownStatement token)

/-- A run of text, an expression tag or a statement. -/
def statementStep (statement : Parse Node) : Parse Node
  | [] => .error .unexpectedEnd
  | token :: rest =>
    match token.kind with
    | .text => .ok (.text token.value, rest)
    | .openStatement => statementBody statement rest
    | .openExpression => do
      let (node, rest) ← expression rest
      let rest ← expect .closeExpression "closing expression token" rest
      .ok (node, rest)
    | _ => .error (.outsideTag token)

/-- Statements nested less deep than the bound. -/
def statementWithin : Nat → Parse Node
  | 0, _ => .error .unexpectedEnd
  | bound + 1, tokens => statementStep (statementWithin bound) tokens

def statement : Parse Node := fun tokens => statementWithin tokens.length tokens

/-- Statements to the end of the tokens. -/
def statementsWithin : Nat → List Token → Except ParseError (List Node)
  | _, [] => .ok []
  | 0, _ => .error .unexpectedEnd
  | bound + 1, tokens => do
    let (first, tokens) ← statement tokens
    let others ← statementsWithin bound tokens
    .ok (first :: others)

end Parse

/-- The syntax tree of a whole template. -/
def Node.ofTokens (tokens : List Token) : Except ParseError Node :=
  .program <$> Parse.statementsWithin tokens.length tokens

end TextTemplate
