import JsxCheck.Grammar.Names

/-!
Types.
-/
namespace JsxCheck.Grammar

/-- Allows a conditional type again, inside brackets of any kind. -/
def insideBrackets {α : Type} (p : Parser α) : Parser α :=
  withReader (fun ctx => { ctx with noConditionalType := false }) p

/-! ### Arguments and parameters of types -/

/-- Reads a doubled opening angle bracket as a single one. -/
def splitOpeningAngle : Parser Unit := do
  if ← atMark "<<" then
    retoken (.punctuation "<") ((← startOffset) + 1)

def typeArguments (goals : Goals) : Parser Node := do
  splitOpeningAngle
  let start ← startOffset
  expect "<"
  if ← atMark ">" then unexpected
  let args ← insideBrackets (commaItems ">" (goals .type))
  node .typeArguments start args

/-- Type arguments on the same line, where they may stand. -/
def typeArguments? (goals : Goals) : Parser (List Node) := do
  if (← atAnyMark ["<", "<<"]) && !(← newlineBefore) then return [← typeArguments goals]
  else return []

def typeParameter (goals : Goals) : Parser Node := do
  let start ← startOffset
  let _ ← collect (α := Unit) do
    unless ← atAnyWord ["in", "out", "const"] do return none
    let isModifier ← ahead do
      advance
      atAnyWordToken
    unless isModifier do return none
    advance
    return some ()
  let name ← bindingIdentifier
  let bound ← if ← acceptWord "extends" then pure [← goals .type] else pure []
  let default ← if ← accept "=" then pure [← goals .type] else pure []
  node .typeParameter start (name :: bound ++ default)

/-- Parameters of a generic declaration, where they may stand. -/
def typeParameters? (goals : Goals) : Parser (List Node) := do
  unless (← isTypescript) && (← atMark "<") do return []
  let start ← startOffset
  advance
  if ← atMark ">" then unexpected
  let items ← insideBrackets (commaItems ">" (typeParameter goals))
  return [← node .typeParameters start items]

/-! ### Names -/

/-- A dotted name; the first part refers, the others are names within it. -/
def entityName (first : Parser Node) : Parser Node := do
  let start ← startOffset
  let head ← first
  grow (fun left => do
    unless ← accept "." do return none
    let right ← identifierName
    return some (← node .qualifiedName start [left, right])) head

/-- The reference at the head of a type's name. No word is reserved there: `const` is the type of
what never changes. -/
def typeNameHead : Parser Node := do
  if ← atWord "this" then leaf (.exprPart .this)
  else wordAs fun text => .exprPart (.identifier text)

def typeReference (goals : Goals) : Parser Node := do
  let start ← startOffset
  let name ← entityName typeNameHead
  let args ← typeArguments? goals
  node .typeReference start (name :: args)

/-! ### Members of object types -/

/-- A comma, a semicolon or a place where one may be left out. -/
def endMember : Parser Unit := do
  unless ← accept "," do endStatement

/-- A signature: type parameters, parameters and the type of the result. -/
def signature (goals : Goals) : Parser (List Node) := do
  let generics ← typeParameters? goals
  let params ← insideBrackets (parameters goals)
  let result ← returnAscription? goals
  return generics ++ params ++ result

/-- A bracket that opens an index signature and no computed name. -/
def atIndexSignature : Parser Bool := ahead do
  unless ← accept "[" do return false
  if ← atAnyMark ["...", "]"] then return true
  unless ← atIdentifier do return false
  advance
  if ← atAnyMark [":", ","] then return true
  unless ← accept "?" do return false
  atAnyMark [":", ",", "]"]

/-- The rest of `[key: K]: V`. -/
def indexSignature (goals : Goals) (start : Nat) : Parser Node := do
  expect "["
  let keys ← commaItems "]" do
    let _ ← identifierName
    ascription? goals
  let value ← ascription? goals
  endMember
  node .indexSignature start (keys.flatten ++ value)

/-- The word in front modifies the member whose name follows it. -/
def modifiesMember : Parser Bool := ahead do
  advance
  atPropertyName

def typeMember (goals : Goals) : Parser Node := do
  let start ← startOffset
  if ← atAnyMark ["(", "<"] then
    let parts ← signature goals
    endMember
    return ← node .callSignature start parts
  let isConstruct ← ahead do
    unless ← acceptWord "new" do return false
    atAnyMark ["(", "<"]
  if isConstruct then
    advance
    let parts ← signature goals
    endMember
    return ← node .constructSignature start parts
  let _ ← collect (α := Unit) do
    unless ← atWord "readonly" do return none
    unless ← modifiesMember do return none
    advance
    return some ()
  if ← atIndexSignature then return ← indexSignature goals start
  if (← atAnyWord ["get", "set"]) && (← modifiesMember) then
    advance
    let key ← propertyName goals
    let parts ← signature goals
    endMember
    return ← node .methodSignature start (key :: parts)
  let key ← propertyName goals
  let _ ← accept "?"
  if ← atAnyMark ["(", "<"] then
    let parts ← signature goals
    endMember
    node .methodSignature start (key :: parts)
  else
    let type ← ascription? goals
    if ← atMark "=" then unexpected
    endMember
    node .propertySignature start (key :: type)

def typeMembers (goals : Goals) : Parser (List Node) := do
  expect openBrace
  let members ← insideBrackets <| collect do
    if ← atMark closeBrace then return none
    return some (← typeMember goals)
  expect closeBrace
  return members

/-! ### Mapped types -/

/-- A brace that opens a mapped type. -/
def atMappedType : Parser Bool := ahead do
  expect openBrace
  if ← atAnyMark ["+", "-"] then
    advance
    return ← atWord "readonly"
  let _ ← acceptWord "readonly"
  unless ← accept "[" do return false
  unless ← atIdentifier do return false
  advance
  atWord "in"

def mappedType (goals : Goals) : Parser Node := do
  let start ← startOffset
  expect openBrace
  if ← atAnyMark ["+", "-"] then
    advance
    expectWord "readonly"
  else
    let _ ← acceptWord "readonly"
  expect "["
  let keyStart ← startOffset
  let name ← bindingIdentifier
  expectWord "in"
  let bound ← insideBrackets (goals .type)
  let key ← node .typeParameter keyStart [name, bound]
  let renamed ← if ← acceptWord "as" then pure [← insideBrackets (goals .type)] else pure []
  expect "]"
  if ← atAnyMark ["+", "-"] then
    advance
    expect "?"
  else
    let _ ← accept "?"
  let value ← insideBrackets (ascription? goals)
  endStatement
  expect closeBrace
  node .mappedType start (key :: renamed ++ value.flatMap Node.children)

/-! ### Tuples -/

/-- A member of a tuple: named, spread, optional or plain. -/
def tupleMember (goals : Goals) : Parser Node := do
  let start ← startOffset
  let isNamed ← ahead do
    let _ ← accept "..."
    unless ← atAnyWordToken do return false
    advance
    let _ ← accept "?"
    atMark ":"
  if isNamed then
    let rest ← accept "..."
    let labelStart ← startOffset
    let label ← identifierName
    let _ ← accept "?"
    expect ":"
    let type ← goals .type
    let member ← node .tupleMember labelStart [label, type]
    if rest then node .restType start [member] else return member
  else if ← accept "..." then
    let type ← goals .type
    node .restType start [type]
  else
    let type ← goals .type
    if ← accept "?" then node .optionalType start [type] else return type

/-! ### Types that stand alone -/

/-- Names of types that are words of the language, unless a dot follows. -/
def keywordTypes : List String :=
  ["any", "unknown", "string", "number", "bigint", "symbol", "boolean", "undefined", "never",
    "object", "intrinsic"]

/-- A word of the language used as a type. -/
def atKeywordType : Parser Bool := do
  if ← atAnyWord ["void", "null"] then return true
  unless ← atAnyWord keywordTypes do return false
  ahead do
    advance
    return !(← atMark ".")

/-- The rest of a type imported in place: its module, and a name and arguments behind it. -/
def importedType (goals : Goals) : Parser Node := do
  let start ← startOffset
  expectWord "import"
  expect "("
  let module ← goals .type
  let options ← if ← accept "," then
      if ← atMark ")" then pure [] else pure [← goals (.assignment true)]
    else pure []
  let _ ← accept ","
  expect ")"
  let qualifier ← if ← accept "." then pure [← entityName identifierName] else pure []
  let args ← typeArguments? goals
  node .importType start (module :: options ++ qualifier ++ args)

/-- The type of a value: `typeof` and a dotted name. -/
def queriedType (goals : Goals) : Parser Node := do
  let start ← startOffset
  expectWord "typeof"
  let target ← if ← atWord "import" then importedType goals else entityName typeNameHead
  let args ← typeArguments? goals
  node .typeQuery start (target :: args)

/-- Consumes the pieces of a template from its opening one on, with what stands between them. -/
def templateParts (hole : Parser Node) (tagged : Bool) : Parser (List Node × List Node) := do
  let piece : Parser (Option Bool × List Node) := do
    match ← peekKind with
    | .template cooked isLast =>
      if cooked.isNone && !tagged then fail (.expected "valid escape")
      let chunk ← leaf (.templateChunk (cooked.getD ""))
      return (some isLast, [chunk])
    | _ => unexpected
  let (isLast, first) ← piece
  if isLast == some true then return (first, [])
  let rest ← grow (fun (acc : Bool × List Node × List Node) => do
    let (done, chunks, holes) := acc
    if done then return none
    let value ← hole
    unless ← atMark closeBrace do fail (.expected closeBrace)
    let (kind, stop) := readTemplate (← read).source ((← startOffset) + 1)
    retoken kind stop
    let (isLast, chunk) ← piece
    return some (isLast == some true, chunks ++ chunk, holes ++ [value])) (false, first, [])
  return (rest.2.1, rest.2.2)

/-- A type of one word, one literal or one pair of brackets. -/
def primaryType (goals : Goals) : Parser Node := do
  let start ← startOffset
  if ← atKeywordType then
    advance
    return ← node .keywordType start []
  let isAssertion ← ahead do
    unless ← acceptWord "asserts" do return false
    return (← atAnyWordToken) && !(← newlineBefore)
  if isAssertion then
    advance
    let name ← if ← atWord "this" then leaf .thisType else identifierName
    let type ← if ← acceptWord "is" then
        let type ← goals .type
        pure [← node .ascription type.span.start [type]]
      else pure []
    return ← node .predicateType start (name :: type)
  match ← peekKind with
  | .word "this" false =>
    let this ← leaf .thisType
    if (← atWord "is") && !(← newlineBefore) then
      advance
      let type ← goals .type
      node .predicateType start [this, ← node .ascription type.span.start [type]]
    else return this
  | .word "typeof" false => queriedType goals
  | .word "import" false => importedType goals
  | .word "true" false | .word "false" false =>
    advance
    node .literalType start []
  | .string _ | .number | .bigint =>
    advance
    node .literalType start []
  | .template _ _ =>
    let (chunks, types) ← templateParts (insideBrackets (goals .type)) false
    node .templateType start (chunks ++ types)
  | .punctuation "-" =>
    advance
    match ← peekKind with
    | .number | .bigint =>
      advance
      node .literalType start []
    | _ => unexpected
  | .punctuation "\x7b" =>
    if ← atMappedType then mappedType goals
    else
      let members ← typeMembers goals
      node .typeLiteral start members
  | .punctuation "[" =>
    advance
    let members ← insideBrackets (commaItems "]" (tupleMember goals))
    node .tupleType start members
  | .punctuation "(" =>
    advance
    let type ← insideBrackets (goals .type)
    expect ")"
    node .parenthesizedType start [type]
  | _ => typeReference goals

/-- Brackets behind a type: an array of it, or the type of one of its properties. -/
def suffixedType (goals : Goals) : Parser Node := do
  let start ← startOffset
  let type ← primaryType goals
  grow (fun inner => do
    if ← newlineBefore then return none
    unless ← accept "[" do return none
    if ← accept "]" then return some (← node .arrayType start [inner])
    let index ← insideBrackets (goals .type)
    expect "]"
    return some (← node .indexedAccessType start [inner, index])) type

/-! ### Operators on types -/

/-- A type inferred in a conditional type, with a bound unless a condition follows it. -/
def inferredType (goals : Goals) : Parser Node := do
  let start ← startOffset
  expectWord "infer"
  let nameStart ← startOffset
  let name ← bindingIdentifier
  let noCondition := (← read).noConditionalType
  let bound ← attempt do
    expectWord "extends"
    let type ← withReader (fun ctx => { ctx with noConditionalType := true }) (goals .type)
    if !noCondition && (← atMark "?") then unexpected
    return type
  let param ← node .typeParameter nameStart (name :: bound.toList)
  node .inferType start [param]

/-- Words in front of a type that change it. -/
def operatorTypeUpTo (goals : Goals) : (fuel : Nat) → Parser Node
  | 0 => fail .tooDeep
  | fuel + 1 => do
    let start ← startOffset
    if ← atAnyWord ["keyof", "unique", "readonly"] then
      advance
      let inner ← operatorTypeUpTo goals fuel
      node .operatorType start [inner]
    else if ← atWord "infer" then inferredType goals
    else suffixedType goals

/-- A list of types joined by a mark, which may also stand in front. -/
def joinedTypes (mark : String) (kind : Kind) (item : Parser Node) : Parser Node := do
  let start ← startOffset
  let leading ← accept mark
  let first ← item
  let rest ← collect do
    unless ← accept mark do return none
    return some (← item)
  if rest.isEmpty && !leading then return first
  node kind start (first :: rest)

/-! ### Functions as types -/

/-- What may begin a parameter has been passed over. -/
def skipParameterStart (goals : Goals) : Parser Bool := do
  skipParameterModifiers
  if (← atIdentifier) || (← atWord "this") then
    advance
    return true
  if ← atAnyMark ["[", openBrace] then
    return (← attempt (goals .pattern)).isSome
  return false

def atFunctionTypeParameters (goals : Goals) : Parser Bool := ahead do
  unless ← accept "(" do return false
  if ← atAnyMark [")", "..."] then return true
  unless ← skipParameterStart goals do return false
  if ← atAnyMark [":", ",", "?", "="] then return true
  unless ← accept ")" do return false
  atMark "=>"

def atFunctionType (goals : Goals) : Parser Bool := do
  if ← atMark "<" then return true
  atFunctionTypeParameters goals

def atConstructorType : Parser Bool := do
  if ← atWord "new" then return true
  ahead do
    unless ← acceptWord "abstract" do return false
    atWord "new"

/-- A signature whose result stands behind an arrow. -/
def arrowSignature (goals : Goals) : Parser (List Node) := do
  let generics ← typeParameters? goals
  let params ← insideBrackets (parameters goals)
  let start ← startOffset
  expect "=>"
  let type ← returnedType goals
  let result ← node .ascription start [type]
  return generics ++ params ++ [result]

/-- Any type. A function type among joined types stands in parentheses. -/
def anyType (goals : Goals) : Parser Node := do
  let start ← startOffset
  if ← atConstructorType then
    let _ ← acceptWord "abstract"
    expectWord "new"
    return ← node .constructorType start (← arrowSignature goals)
  if ← atFunctionType goals then
    return ← node .functionType start (← arrowSignature goals)
  let depth := (← read).source.size + 1
  let type ← joinedTypes "|" .unionType <| joinedTypes "&" .intersectionType <|
    operatorTypeUpTo goals depth
  if !(← read).noConditionalType && !(← newlineBefore) && (← atWord "extends") then
    advance
    let bound ← withReader (fun ctx => { ctx with noConditionalType := true }) (goals .type)
    expect "?"
    let yes ← insideBrackets (goals .type)
    expect ":"
    let no ← insideBrackets (goals .type)
    node .conditionalType start [type, bound, yes, no]
  else return type

end JsxCheck.Grammar
