import JsxCheck.Grammar.Token
import JsxCheck.Source.Dialect
import JsxCheck.Syntax.Node

/-!
Parsers over tokens.

A parser reads the current token, which is always one ahead of what has been consumed, and either
fails or moves on. Going back is restoring a state. Recursion of the grammar goes through `Goal`:
a nonterminal is parsed by a step that may ask for other goals, and steps nest only as deep as the
fuel that the length of the text gives.
-/
namespace JsxCheck.Grammar

/-- Why a text is no program. -/
inductive SyntaxFault where
  | expected (what : String)
  | unexpectedToken
  | invalidTarget
  | misplaced (what : String)
  | tagMismatch
  | tooDeep
  deriving DecidableEq, Inhabited

structure SyntaxError where
  offset : Nat
  fault : SyntaxFault
  deriving DecidableEq, Inhabited

namespace SyntaxError

def message (e : SyntaxError) : String :=
  match e.fault with
  | .expected what => s!"expected {what}"
  | .unexpectedToken => "unexpected token"
  | .invalidTarget => "invalid assignment target"
  | .misplaced what => s!"{what} is not allowed here"
  | .tagMismatch => "closing tag does not match opening tag"
  | .tooDeep => "nested too deeply"

end SyntaxError

/-- Where the parser is: what the words around it allow. -/
structure Context where
  source : Source
  dialect : Dialect
  /-- `in` is an operator here. -/
  allowIn : Bool := true
  /-- `yield` is an operator here. -/
  inGenerator : Bool := false
  /-- `await` is an operator here. -/
  inAsync : Bool
  /-- `return` may stand here. -/
  inFunction : Bool := false
  /-- Declarations here have no bodies. -/
  ambient : Bool
  /-- A type may not continue with `extends` here. -/
  noConditionalType : Bool := false

structure State where
  token : Token
  /-- Offset after the last consumed token. -/
  prevStop : Nat
  /-- Comments passed so far, last first. -/
  comments : List Span
  /-- Starts of shorthand properties with an initializer that no pattern has taken up. -/
  openInits : List Nat := []
  /-- Starts of spreads at the end of a literal with a comma behind them. -/
  closingCommas : List Nat := []

abbrev Parser := ReaderT Context (StateT State (Except SyntaxError))

/-- The nonterminals through which the grammar recurs. -/
inductive Goal where
  | expression
  /-- An assignment or anything that binds tighter; an arrow function in the middle of a
  conditional may not take the colon that follows as its return type. -/
  | assignment (arrowReturnType : Bool)
  | unary
  /-- What may stand before a call's parenthesis: members, calls and what binds tighter. -/
  | leftHandSide
  | statement
  | pattern
  | type
  /-- An element or fragment; as a child its end is followed by text. -/
  | jsx (isChild : Bool)
  deriving DecidableEq, Inhabited

/-- A parser for each goal. -/
abbrev Goals := Goal → Parser Node

def openBrace : String := "\x7b"

def closeBrace : String := "\x7d"

/-! ### Looking at tokens -/

def peek : Parser Token := return (← get).token

def peekKind : Parser TokenKind := return (← get).token.kind

def startOffset : Parser Nat := return (← get).token.span.start

def prevStop : Parser Nat := return (← get).prevStop

def fail {α : Type} (fault : SyntaxFault) : Parser α := do
  throw ⟨← startOffset, fault⟩

def unexpected {α : Type} : Parser α := fail .unexpectedToken

def isTypescript : Parser Bool := return (← read).dialect.typescript

def atMark (mark : String) : Parser Bool := do
  match ← peekKind with
  | .punctuation text => return text == mark
  | _ => return false

def atAnyMark (marks : List String) : Parser Bool := do
  match ← peekKind with
  | .punctuation text => return marks.contains text
  | _ => return false

/-- The current token is this word, written without escapes. -/
def atWord (word : String) : Parser Bool := do
  match ← peekKind with
  | .word text false => return text == word
  | _ => return false

def atAnyWord (words : List String) : Parser Bool := do
  match ← peekKind with
  | .word text false => return words.contains text
  | _ => return false

def newlineBefore : Parser Bool := return (← get).token.newlineBefore

/-! ### Moving on -/

def setToken (token : Token) (comments : List Span) : Parser Unit :=
  modify fun st => { st with token, comments := comments ++ st.comments }

def advance : Parser Unit := do
  let source := (← read).source
  let stop := (← get).token.span.stop
  if (← peekKind) == .invalid then unexpected
  modify fun st => { st with prevStop := stop }
  let (token, comments) := nextToken source stop
  setToken token comments

/-- Consumes the current token, and reads on between the tags of an element. -/
def advanceToChild : Parser Unit := do
  let source := (← read).source
  let stop := (← get).token.span.stop
  modify fun st => { st with prevStop := stop }
  setToken (nextChildToken source stop) []

/-- Consumes the current token, and reads on where the value of an attribute stands. -/
def advanceToAttributeValue : Parser Unit := do
  let source := (← read).source
  let stop := (← get).token.span.stop
  modify fun st => { st with prevStop := stop }
  let (token, comments) := nextAttributeToken source stop
  setToken token comments

/-- Reads the current token again as something that starts at the same offset. -/
def retoken (kind : TokenKind) (stop : Nat) : Parser Unit :=
  modify fun st => { st with token := { st.token with kind, span := ⟨st.token.span.start, stop⟩ } }

def accept (mark : String) : Parser Bool := do
  if ← atMark mark then
    advance
    return true
  else return false

def acceptWord (word : String) : Parser Bool := do
  if ← atWord word then
    advance
    return true
  else return false

def expect (mark : String) : Parser Unit := do
  unless ← accept mark do fail (.expected mark)

def expectWord (word : String) : Parser Unit := do
  unless ← acceptWord word do fail (.expected word)

/-! ### Going back -/

/-- Runs a parser; when it fails nothing has been consumed. -/
def attempt {α : Type} (p : Parser α) : Parser (Option α) := fun ctx st =>
  match p ctx st with
  | .ok (a, st') => .ok (some a, st')
  | .error _ => .ok (none, st)

/-- Asks a question about the tokens ahead and consumes nothing. A failure is a no. -/
def ahead (p : Parser Bool) : Parser Bool := fun ctx st =>
  match p ctx st with
  | .ok (a, _) => .ok (a, st)
  | .error _ => .ok (false, st)

/-! ### Repetition -/

/-- Runs a step until it gives nothing, at most `fuel` times. -/
def collectUpTo {α : Type} (step : Parser (Option α)) : (fuel : Nat) → Parser (List α)
  | 0 => return []
  | fuel + 1 => do
    match ← step with
    | some a => return a :: (← collectUpTo step fuel)
    | none => return []

/-- Runs a step until it gives nothing. Steps consume, so there are no more than bytes. -/
def collect {α : Type} (step : Parser (Option α)) : Parser (List α) := do
  collectUpTo step ((← read).source.size + 1)

/-- Grows a value step by step, at most `fuel` times. -/
def growUpTo {α : Type} (step : α → Parser (Option α)) : (fuel : Nat) → α → Parser α
  | 0, a => return a
  | fuel + 1, a => do
    match ← step a with
    | some b => growUpTo step fuel b
    | none => return a

/-- Grows a value step by step until a step gives nothing. -/
def grow {α : Type} (step : α → Parser (Option α)) (a : α) : Parser α := do
  growUpTo step ((← read).source.size + 1) a

/-- Items with commas between them up to a closing mark, which is consumed. -/
def commaItems {α : Type} (close : String) (item : Parser α) : Parser (List α) := do
  let items ← collect do
    if ← atMark close then return none
    let a ← item
    unless ← atMark close do expect ","
    return some a
  expect close
  return items

/-! ### Making nodes -/

/-- A node from an offset to the end of the last consumed token. -/
def node (kind : Kind) (start : Nat) (children : List Node) : Parser Node :=
  return .mk kind ⟨start, ← prevStop⟩ children

def exprNode (form : Expr) (start : Nat) (children : List Node) : Parser Node :=
  node (.expr form) start children

/-- Consumes the current token and makes it a node without children. -/
def leaf (kind : Kind) : Parser Node := do
  let start ← startOffset
  advance
  node kind start []

/-! ### Words as names -/

def reservedWords : List String :=
  ["break", "case", "catch", "class", "const", "continue", "debugger", "default", "delete", "do",
    "else", "enum", "export", "extends", "false", "finally", "for", "function", "if", "import",
    "in", "instanceof", "new", "null", "return", "super", "switch", "this", "throw", "true", "try",
    "typeof", "var", "void", "while", "with"]

/-- A word that may be used as an identifier here. -/
def isIdentifierWord (ctx : Context) (word : String) : Bool :=
  !reservedWords.contains word && !(word == "await" && ctx.inAsync)
    && !(word == "yield" && ctx.inGenerator)

def identifier? : Parser (Option String) := do
  match ← peekKind with
  | .word text _ => return if isIdentifierWord (← read) text then some text else none
  | _ => return none

def atIdentifier : Parser Bool := return (← identifier?).isSome

/-- Consumes an identifier as a node of the kind its name gives. -/
def identifierAs (kind : String → Kind) : Parser Node := do
  match ← identifier? with
  | some text => leaf (kind text)
  | none => fail (.expected "identifier")

def bindingIdentifier : Parser Node := identifierAs .binding

def atAnyWordToken : Parser Bool := do
  match ← peekKind with
  | .word _ _ => return true
  | _ => return false

/-- Consumes any word, reserved or not, as a name. -/
def wordAs (kind : String → Kind) : Parser Node := do
  match ← peekKind with
  | .word text _ => leaf (kind text)
  | _ => fail (.expected "name")

def identifierName : Parser Node := wordAs .name

/-! ### Ends of statements -/

/-- A statement may end here without a semicolon. -/
def canEndStatement : Parser Bool := do
  if ← newlineBefore then return true
  if ← atAnyMark [";", closeBrace] then return true
  return (← peekKind) == .endOfFile

/-- Consumes the semicolon of a statement, which may be left out before a line break, a closing
brace and the end. -/
def endStatement : Parser Unit := do
  unless ← accept ";" do
    unless ← canEndStatement do fail (.expected ";")

end JsxCheck.Grammar
