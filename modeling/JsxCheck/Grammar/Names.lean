import JsxCheck.Grammar.Parser

/-!
Names of properties, type annotations and parameters: the parts that types, functions, classes and
object literals share.
-/
namespace JsxCheck.Grammar

/-! ### Property names -/

/-- A literal, a bracketed expression, a word or a private name. Whether it is computed comes
beside it. -/
def propertyName (goals : Goals) : Parser Node := do
  match ← peekKind with
  | .string value => leaf (.expr (.string value))
  | .number => leaf (.expr .number)
  | .bigint => leaf (.expr .bigint)
  | .punctuation "[" =>
    advance
    let key ← withReader (fun ctx => { ctx with allowIn := true }) (goals (.assignment true))
    expect "]"
    return key
  | _ => identifierName

def atPropertyName : Parser Bool := do
  match ← peekKind with
  | .string _ | .number | .bigint | .privateName _ | .word _ _ => return true
  | .punctuation "[" => return true
  | _ => return false

/-! ### Type annotations -/

/-- A name followed by `is` on the same line: the claim a function makes about its parameter. -/
def atPredicate : Parser Bool := ahead do
  unless ← atIdentifier do return false
  advance
  return (← atWord "is") && !(← newlineBefore)

/-- A type, or a predicate in its place. -/
def returnedType (goals : Goals) : Parser Node := do
  let start ← startOffset
  if ← atPredicate then
    let name ← identifierName
    expectWord "is"
    let type ← goals .type
    node .predicateType start [name, ← node .ascription type.span.start [type]]
  else goals .type

/-- The type after a colon, where one may stand. -/
def ascription? (goals : Goals) : Parser (List Node) := do
  unless ← isTypescript do return []
  let start ← startOffset
  if ← accept ":" then
    let type ← goals .type
    return [← node .ascription start [type]]
  else return []

def returnAscription? (goals : Goals) : Parser (List Node) := do
  unless ← isTypescript do return []
  let start ← startOffset
  if ← accept ":" then
    let type ← withReader (fun ctx => { ctx with noConditionalType := false }) (returnedType goals)
    return [← node .ascription start [type]]
  else return []

/-! ### Decorators -/

def decorators (goals : Goals) : Parser (List Node) :=
  collect do
    let start ← startOffset
    unless ← accept "@" do return none
    let value ← goals .leftHandSide
    return some (← node .decorator start [value])

/-! ### Parameters -/

/-- Words that may stand in front of a parameter of a constructor. -/
def parameterModifiers : List String := ["public", "private", "protected", "readonly", "override"]

/-- Passes over modifiers: words that a name or a pattern follows. -/
def skipParameterModifiers : Parser Unit := do
  let _ ← collect (α := Unit) do
    unless (← isTypescript) && (← atAnyWord parameterModifiers) do return none
    let isModifier ← ahead do
      advance
      return (← atAnyWordToken) || (← atAnyMark ["[", openBrace])
    unless isModifier do return none
    advance
    return some ()

def parameter (goals : Goals) : Parser Node := do
  let start ← startOffset
  let decorated ← decorators goals
  skipParameterModifiers
  let rest ← accept "..."
  let pattern ← goals .pattern
  if ← isTypescript then
    let _ ← accept "?"
  let type ← ascription? goals
  if rest then
    if ← atMark "=" then fail (.misplaced "initializer")
    node .restParameter start (decorated ++ pattern :: type)
  else if ← accept "=" then
    let init ← withReader (fun ctx => { ctx with allowIn := true }) (goals (.assignment true))
    node .parameter start (decorated ++ pattern :: type ++ [init])
  else node .parameter start (decorated ++ pattern :: type)

/-- The type given to `this`, which looks like a first parameter. -/
def thisParameter? (goals : Goals) : Parser (List Node) := do
  unless (← isTypescript) && (← atWord "this") do return []
  let start ← startOffset
  advance
  let type ← ascription? goals
  let this ← node .thisParameter start type
  unless ← atMark ")" do expect ","
  return [this]

/-- A rest parameter is the last, and no comma follows it. -/
def restIsLast : List Node → Bool
  | [] | [_] => true
  | n :: rest =>
    match n.kind with
    | .restParameter => false
    | _ => restIsLast rest

/-- Parameters in parentheses, with the type of `this` in front if there is one. -/
def parameters (goals : Goals) : Parser (List Node) := do
  let start ← startOffset
  expect "("
  let this ← thisParameter? goals
  let items ← collect do
    if ← atMark ")" then return none
    let item ← parameter goals
    unless ← atMark ")" do
      match item.kind with
      | .restParameter => unless (← read).ambient do fail (.misplaced "comma")
      | _ => pure ()
      expect ","
    return some item
  expect ")"
  unless restIsLast items do fail (.misplaced "rest parameter")
  return this ++ [← node .parameters start items]

end JsxCheck.Grammar
