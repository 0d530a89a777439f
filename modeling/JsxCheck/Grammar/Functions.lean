import JsxCheck.Grammar.Types

/-!
Patterns that declare variables, and functions.
-/
namespace JsxCheck.Grammar

/-- An expression between brackets, where `in` is an operator. -/
def bracketed (goals : Goals) (goal : Goal) : Parser Node :=
  withReader (fun ctx => { ctx with allowIn := true }) (goals goal)

/-! ### Patterns -/

/-- A pattern with an initializer behind it, where one may stand. -/
def withInitializer (goals : Goals) (start : Nat) (pattern : Node) : Parser Node := do
  if ← accept "=" then
    let init ← bracketed goals (.assignment true)
    node .defaultPattern start [pattern, init]
  else return pattern

/-- The rest of a pattern behind three dots, which must be its last part. -/
def restPattern (goals : Goals) (close : String) : Parser Node := do
  let start ← startOffset
  expect "..."
  let pattern ← goals .pattern
  unless ← atMark close do fail (.misplaced "rest element")
  node .restPattern start [pattern]

def patternProperty (goals : Goals) : Parser Node := do
  if ← atMark "..." then return ← restPattern goals closeBrace
  let start ← startOffset
  let shorthand ← identifier?
  let isLong ← ahead do
    let _ ← propertyName goals
    atMark ":"
  match shorthand, isLong with
  | some text, false =>
    let key := Node.mk (.name text) (← peek).span []
    let value ← bindingIdentifier
    let value ← withInitializer goals start value
    node .patternProperty start [key, value]
  | _, _ =>
    let key ← propertyName goals
    expect ":"
    let valueStart ← startOffset
    let value ← goals .pattern
    let value ← withInitializer goals valueStart value
    node .patternProperty start [key, value]

def patternElement (goals : Goals) : Parser Node := do
  let start ← startOffset
  if ← atMark "," then return .mk .elision ⟨start, start⟩ []
  if ← atMark "..." then return ← restPattern goals "]"
  let pattern ← goals .pattern
  withInitializer goals start pattern

/-- A name, or a pattern in brackets or braces. -/
def bindingPattern (goals : Goals) : Parser Node := do
  let start ← startOffset
  if ← accept openBrace then
    let parts ← commaItems closeBrace (patternProperty goals)
    node .objectPattern start parts
  else if ← accept "[" then
    let parts ← commaItems "]" (patternElement goals)
    node .arrayPattern start parts
  else bindingIdentifier

/-! ### Bodies -/

/-- A statement that is only a string, in front of all others. -/
def directive? : Parser (Option Node) := do
  match ← peekKind with
  | .string value =>
    attempt do
      let start ← startOffset
      let text ← leaf (.exprPart (.string value))
      let ends ← canEndStatement
      unless ends do unexpected
      -- a line break ends the string's statement only if nothing could continue it
      if (← newlineBefore) && !(← atAnyMark [";", closeBrace]) then
        if ← atAnyMark ["(", "[", "+", "-", "*", "/", ",", ".", "?.", "?", "=", "==", "===", "!=",
            "!==", "<", ">", "<=", "&&", "||", "??", "&", "|", "^", "%", "**", "<<"] then unexpected
        match ← peekKind with
        | .template _ _ => unexpected
        | _ => pure ()
        if ← atAnyWord ["in", "instanceof"] then unexpected
      endStatement
      node .directive start [text]
  | _ => return none

/-- Statements up to a closing brace or the end, directives first. -/
def bodyStatements (goals : Goals) : Parser (List Node) := do
  let directives ← collect directive?
  let statements ← collect do
    if (← atMark closeBrace) || (← peekKind) == .endOfFile then return none
    return some (← goals .statement)
  return directives ++ statements

structure FunctionMode where
  isAsync : Bool := false
  isGenerator : Bool := false

def inFunction {α : Type} (mode : FunctionMode) (p : Parser α) : Parser α :=
  withReader (fun ctx =>
    { ctx with
      inAsync := mode.isAsync, inGenerator := mode.isGenerator, inFunction := true
      allowIn := true, noConditionalType := false }) p

def functionBody (goals : Goals) : Parser Node := do
  let start ← startOffset
  expect openBrace
  let statements ← bodyStatements goals
  expect closeBrace
  node .functionBody start statements

/-- Parameters, result and body. The body may be missing where declarations have none. -/
def functionTail (goals : Goals) (mode : FunctionMode) : Parser (List Node) :=
  inFunction mode do
    let generics ← typeParameters? goals
    let params ← parameters goals
    let result ← returnAscription? goals
    if ← atMark openBrace then
      let body ← withReader (fun ctx => { ctx with ambient := ctx.dialect.ambient })
        (functionBody goals)
      return generics ++ params ++ result ++ [body]
    else if ← isTypescript then
      return generics ++ params ++ result
    else fail (.expected openBrace)

/-- The function behind the name of a method. -/
def methodFunction (goals : Goals) (mode : FunctionMode) (kind : Kind) : Parser Node := do
  let start ← startOffset
  let parts ← functionTail goals mode
  node kind start parts

/-- A getter takes nothing, and a setter takes one value. -/
def takesForAccess (isGetter : Bool) (function : Node) : Bool :=
  function.children.any fun part =>
    match part with
    | .mk .parameters _ items =>
      match items with
      | [] => isGetter
      | [.mk .parameter _ _] => !isGetter
      | _ => false
    | _ => false

/-- The function behind the name of a getter or a setter. -/
def accessorFunction (goals : Goals) (isGetter : Bool) (kind : Kind) : Parser Node := do
  let function ← methodFunction goals {} kind
  unless takesForAccess isGetter function do fail (.misplaced "parameter")
  return function

def hasBody (function : Node) : Bool :=
  function.children.any fun part => match part.kind with | .functionBody => true | _ => false

/-- A function that declares its name. Without a body the statement ends behind its head. -/
def functionDeclaration (goals : Goals) (start : Nat) (isAsync nameOptional : Bool) :
    Parser Node := do
  expectWord "function"
  let isGenerator ← accept "*"
  let name ← if nameOptional && !(← atIdentifier) then pure [] else pure [← bindingIdentifier]
  let parts ← functionTail goals { isAsync, isGenerator }
  let declared ← node .functionDeclaration start (name ++ parts)
  if hasBody declared then return declared
  endStatement
  node .functionDeclaration start declared.children

def functionExpression (goals : Goals) (start : Nat) (isAsync : Bool) : Parser Node := do
  expectWord "function"
  let isGenerator ← accept "*"
  let mode : FunctionMode := { isAsync, isGenerator }
  let name ← inFunction mode do
    if ← atIdentifier then pure [← bindingIdentifier] else pure []
  let parts ← functionTail goals mode
  let function ← exprNode .function start (name ++ parts)
  unless hasBody function do fail (.expected openBrace)
  return function

end JsxCheck.Grammar
