import JsxCheck.Grammar.Functions

/-!
Classes and their members.
-/
namespace JsxCheck.Grammar

def memberModifiers : List String := ["static", "async", "accessor"]

/-- Words that may stand in front of a member in TypeScript. -/
def typedMemberModifiers : List String :=
  ["declare", "public", "private", "protected", "abstract", "override", "readonly"]

/-- The current word modifies the member behind it: what follows can begin one. -/
def atMemberModifier : Parser Bool := do
  let known ← do
    if ← isTypescript then atAnyWord (memberModifiers ++ typedMemberModifiers)
    else atAnyWord memberModifiers
  unless known do return false
  let sameLine ← atAnyWord ["async", "accessor", "declare", "abstract", "override"]
  ahead do
    advance
    if sameLine && (← newlineBefore) then return false
    return (← atPropertyName) || (← atMark "*")

/-- The modifiers of a member. A second `static` is its name. -/
def memberModifierWords : Parser (List String) :=
  grow (fun seen => do
    unless ← atMemberModifier do return none
    match ← peekKind with
    | .word text _ =>
      if text == "static" && seen.contains "static" then return none
      advance
      return some (seen ++ [text])
    | _ => return none) []

/-- The key spells a name, as a word or as a string. -/
def isNamed (key : Node) (name : String) : Bool :=
  match key.kind with
  | .name text => text == name
  | .expr (.string value) => value == name
  | _ => false

/-- The key of a member, and whether it is computed. No private member is called constructor, and
no static one is called prototype. -/
def memberKey (goals : Goals) (isStatic : Bool) : Parser (Node × Bool) := do
  if let .privateName text ← peekKind then
    if text == "constructor" then fail (.misplaced "constructor")
    return (← leaf (.privateName text), false)
  let isComputed ← atMark "["
  let key ← propertyName goals
  if isStatic && !isComputed && isNamed key "prototype" then fail (.misplaced "prototype")
  return (key, isComputed)

def classMethod (start : Nat) (decorated : List Node) (form : MethodForm) (isStatic : Bool)
    (key : Node) (function : Parser Node) : Parser Node := do
  let value ← function
  unless hasBody value do endStatement
  node (.method form isStatic) start (decorated ++ [key, value])

def classField (goals : Goals) (start : Nat) (decorated : List Node) (kind : Kind) (key : Node) :
    Parser Node := do
  let type ← ascription? goals
  let value ← if ← accept "=" then
      pure [← inFunction {} (goals (.assignment true))]
    else pure []
  endStatement
  node kind start (decorated ++ key :: type ++ value)

def classMember (goals : Goals) : Parser Node := do
  let start ← startOffset
  let decorated ← decorators goals
  let isStaticBlock ← ahead do
    unless ← acceptWord "static" do return false
    atMark openBrace
  if isStaticBlock then
    advance
    expect openBrace
    let statements ← inFunction {} <|
      withReader (fun ctx => { ctx with inFunction := false, inAsync := true }) <| collect do
        if ← atMark closeBrace then return none
        return some (← goals .statement)
    expect closeBrace
    return ← node .staticBlock start statements
  let modifiers ← memberModifierWords
  unless modifiers.Nodup do fail (.misplaced "modifier")
  let isStatic := modifiers.contains "static"
  if (← isTypescript) && (← atIndexSignature) then return ← indexSignature goals start
  let isGenerator ← accept "*"
  let mode : FunctionMode := { isAsync := modifiers.contains "async", isGenerator }
  let isAccessor ← if isGenerator then pure false else
    if ← atAnyWord ["get", "set"] then modifiesMember else pure false
  if isAccessor then
    let isGetter ← atWord "get"
    advance
    let (key, isComputed) ← memberKey goals isStatic
    if !isStatic && !isComputed && isNamed key "constructor" then fail (.misplaced "accessor")
    return ← classMethod start decorated (if isGetter then .getter else .setter) isStatic key
      (accessorFunction goals isGetter (.exprPart .function))
  let (key, isComputed) ← memberKey goals isStatic
  let isConstructor := !isComputed && isNamed key "constructor"
  let isOptional ← if ← isTypescript then accept "?" else pure false
  if ← atAnyMark ["(", "<"] then
    let isConstructor := isConstructor && !isStatic
    if isConstructor && (mode.isAsync || mode.isGenerator) then fail (.misplaced "constructor")
    classMethod start decorated (if isConstructor then .constructor else .method) isStatic key
      (methodFunction goals mode (.exprPart .function))
  else
    if isConstructor || mode.isAsync || mode.isGenerator then unexpected
    if (← isTypescript) && !isOptional && (← atMark "!") && !(← newlineBefore) then advance
    let kind := if modifiers.contains "accessor" then Kind.accessorField else Kind.field
    classField goals start decorated kind key

def classBody (goals : Goals) : Parser Node := do
  let start ← startOffset
  expect openBrace
  let members ← withReader (fun ctx => { ctx with allowIn := true }) <| collect do
    let _ ← collect (α := Unit) do
      if ← accept ";" then return some () else return none
    if ← atMark closeBrace then return none
    return some (← classMember goals)
  expect closeBrace
  node .classBody start members

/-- The class extended, with its type arguments. -/
def heritage? (goals : Goals) : Parser (List Node) := do
  let start ← startOffset
  unless ← acceptWord "extends" do return []
  let base ← goals .leftHandSide
  match base.kind, base.children with
  | .expr .instantiation, [inner, args] => return [← node .heritage start [inner, args]]
  | _, _ =>
    let args ← if ← atAnyMark ["<", "<<"] then pure [← typeArguments goals] else pure []
    return [← node .heritage start (base :: args)]

def implementsClause? (goals : Goals) : Parser (List Node) := do
  unless ← isTypescript do return []
  unless ← acceptWord "implements" do return []
  let item : Parser Node := do
    let start ← startOffset
    let name ← entityName typeNameHead
    let args ← typeArguments? goals
    node .implementsClause start (name :: args)
  let first ← item
  let rest ← collect do
    unless ← accept "," do return none
    return some (← item)
  return first :: rest

/-- A class from the word `class` on. -/
def classTail (goals : Goals) (kind : Kind) (start : Nat) (decorated : List Node)
    (nameOptional : Bool) : Parser Node := do
  expectWord "class"
  let isUnnamed ← do
    if !(← atIdentifier) then pure true
    else if ← atWord "implements" then ahead do
        advance
        return (← atIdentifier) && !(← atWord "extends")
    else pure false
  if isUnnamed && !nameOptional then fail (.expected "identifier")
  let name ← if isUnnamed then pure [] else pure [← bindingIdentifier]
  let generics ← typeParameters? goals
  let base ← heritage? goals
  let interfaces ← implementsClause? goals
  let body ← classBody goals
  node kind start (decorated ++ name ++ generics ++ base ++ interfaces ++ [body])

end JsxCheck.Grammar
