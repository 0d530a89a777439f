import JsxCheck.Grammar.Classes
import JsxCheck.Grammar.Elements
import JsxCheck.Grammar.Targets

/-!
Expressions, from names and literals up to lists with commas.
-/
namespace JsxCheck.Grammar

/-! ### Literals -/

/-- A spread in a literal behind its dots. A comma between it and the end of the literal is
noted. -/
def spreadItem (goals : Goals) (start : Nat) (close : String) : Parser Node := do
  let value ← goals (.assignment true)
  let spread ← node .spread start [value]
  let endsInComma ← ahead do
    unless ← accept "," do return false
    atMark close
  if endsInComma then modify fun st => { st with closingCommas := start :: st.closingCommas }
  return spread

def arrayItem (goals : Goals) : Parser Node := do
  let start ← startOffset
  if ← atMark "," then return .mk .elision ⟨start, start⟩ []
  if ← accept "..." then spreadItem goals start "]" else goals (.assignment true)

def arrayLiteral (goals : Goals) : Parser Node := do
  let start ← startOffset
  expect "["
  let items ← withReader (fun ctx => { ctx with allowIn := true })
    (commaItems "]" (arrayItem goals))
  exprNode .array start items

/-- A function as a property of an object literal, behind its key. -/
def objectMethod (start : Nat) (form : PropertyForm) (key : Node) (function : Parser Node) :
    Parser Node := do
  let value ← function
  unless hasBody value do fail (.expected openBrace)
  node (.property form) start [key, value]

/-- A property of an object literal. A shorthand property with an initializer is no property but a
part of a pattern, so its start is kept until a pattern takes it up. -/
def objectProperty (goals : Goals) : Parser Node := do
  let start ← startOffset
  if ← accept "..." then return ← spreadItem goals start closeBrace
  let isAsync ← ahead do
    unless ← acceptWord "async" do return false
    return !(← newlineBefore) && ((← atPropertyName) || (← atMark "*"))
  if isAsync then advance
  let isGenerator ← accept "*"
  let mode : FunctionMode := { isAsync, isGenerator }
  if !isAsync && !isGenerator && (← atAnyWord ["get", "set"]) && (← modifiesMember) then
    let isGetter ← atWord "get"
    advance
    let key ← propertyName goals
    return ← objectMethod start ⟨true, false, false⟩ key
      (accessorFunction goals isGetter (.expr .function))
  let word ← identifier?
  let keySpan := (← peek).span
  let key ← propertyName goals
  if isAsync || isGenerator || (← atAnyMark ["(", "<"]) then
    return ← objectMethod start ⟨false, true, false⟩ key
      (methodFunction goals mode (.expr .function))
  if ← accept ":" then
    let value ← goals (.assignment true)
    return ← node (.property ⟨false, false, false⟩) start [key, value]
  match word with
  | some text =>
    let value := Node.mk (.expr (.identifier text)) keySpan []
    if ← accept "=" then
      let init ← goals (.assignment true)
      modify fun st => { st with openInits := start :: st.openInits }
      node (.property ⟨false, false, true⟩) start [key, value, init]
    else node (.property ⟨false, false, true⟩) start [key, value]
  | none => unexpected

def objectLiteral (goals : Goals) : Parser Node := do
  let start ← startOffset
  expect openBrace
  let items ← withReader (fun ctx => { ctx with allowIn := true })
    (commaItems closeBrace (objectProperty goals))
  exprNode .object start items

/-- A template, as an expression or behind a tag. -/
def templateLiteral (goals : Goals) (kind : Kind) (tagged : Bool) : Parser Node := do
  let start ← startOffset
  let (chunks, values) ← templateParts (bracketed goals .expression) tagged
  node kind start (chunks ++ values)

/-! ### Names, literals and brackets -/

/-- `import` as an expression: a call or the properties of the module. -/
def importExpression (goals : Goals) : Parser Node := do
  let start ← startOffset
  let keyword ← identifierName
  if ← accept "." then
    let property ← identifierName
    match property.kind with
    | .name "meta" => return ← exprNode .metaProperty start [keyword, property]
    | .name "defer" | .name "source" => pure ()
    | _ => unexpected
  expect "("
  let args ← withReader (fun ctx => { ctx with allowIn := true })
    (commaItems ")" (goals (.assignment true)))
  if args.isEmpty || args.length > 2 then unexpected
  exprNode .importCall start args

def wordExpression (goals : Goals) (text : String) : Parser Node := do
  let start ← startOffset
  match text with
  | "this" => leaf (.expr .this)
  | "null" => leaf (.expr .null)
  | "true" => leaf (.expr (.boolean true))
  | "false" => leaf (.expr (.boolean false))
  | "super" =>
    let value ← leaf (.expr .super)
    if ← atAnyMark ["(", ".", "["] then return value else unexpected
  | "function" => functionExpression goals start false
  | "class" => classTail goals (.expr .classExpr) start [] true
  | "import" => importExpression goals
  | _ =>
    let isAsyncFunction ← ahead do
      unless ← acceptWord "async" do return false
      return (← atWord "function") && !(← newlineBefore)
    if isAsyncFunction then
      advance
      functionExpression goals start true
    else identifierAs fun name => .expr (.identifier name)

def primary (goals : Goals) : Parser Node := do
  let start ← startOffset
  match ← peekKind with
  | .word text false => wordExpression goals text
  | .word _ true => identifierAs fun name => .expr (.identifier name)
  | .number => leaf (.expr .number)
  | .bigint => leaf (.expr .bigint)
  | .string value => leaf (.expr (.string value))
  | .template _ _ => templateLiteral goals (.expr .template) false
  | .punctuation "(" =>
    advance
    let inner ← bracketed goals .expression
    expect ")"
    exprNode .parenthesized start [inner]
  | .punctuation "[" => arrayLiteral goals
  | .punctuation "\x7b" => objectLiteral goals
  | .punctuation "/" | .punctuation "/=" =>
    let (kind, stop) := readRegexp (← read).source start
    retoken kind stop
    leaf (.expr .regexp)
  | .punctuation "@" =>
    let decorated ← decorators goals
    classTail goals (.expr .classExpr) start decorated true
  | .punctuation "<" => if (← read).dialect.jsx then goals (.jsx false) else unexpected
  | _ => unexpected

/-! ### Members and calls -/

def callArguments (goals : Goals) : Parser (List Node) := do
  expect "("
  withReader (fun ctx => { ctx with allowIn := true }) <| commaItems ")" do
    let start ← startOffset
    if ← accept "..." then
      let value ← goals (.assignment true)
      node .spread start [value]
    else goals (.assignment true)

def atBinaryOperator : Parser Bool := do
  if ← atAnyMark ["??", "||", "&&", "|", "^", "&", "==", "!=", "===", "!==", "<", ">", "<=", "<<",
      "+", "-", "*", "/", "%", "**"] then return true
  if ← atWord "in" then return (← read).allowIn
  atAnyWord ["instanceof", "as", "satisfies"]

def atExpressionStart : Parser Bool := do
  match ← peekKind with
  | .number | .bigint | .string _ | .template _ _ | .regexp | .privateName _ => return true
  | .word text escaped =>
    if escaped || isIdentifierWord (← read) text then return true
    return ["this", "super", "null", "true", "false", "function", "class", "new", "import", "delete",
      "typeof", "void", "await", "yield"].contains text
  | .punctuation mark =>
    return ["(", "[", openBrace, "/", "/=", "+", "-", "~", "!", "++", "--", "<", "@"].contains mark
  | _ => return false

/-- What follows lets the angle brackets before it be type arguments of an expression. -/
def canFollowTypeArguments : Parser Bool := do
  match ← peekKind with
  | .template _ _ => return true
  | .punctuation "(" => return true
  | .punctuation "<" | .punctuation ">" | .punctuation "+" | .punctuation "-" => return false
  | _ =>
    if ← newlineBefore then return true
    if ← atBinaryOperator then return true
    return !(← atExpressionStart)

/-- Type arguments in an expression, if the text can be read so. -/
def expressionTypeArguments? (goals : Goals) : Parser (Option Node) := do
  unless (← isTypescript) && (← atAnyMark ["<", "<<"]) do return none
  attempt do
    let args ← typeArguments goals
    unless ← canFollowTypeArguments do unexpected
    return args

/-- A member, a call or a template behind an expression, and whether an optional link occurred. -/
structure Link where
  value : Node
  isChain : Bool := false

def dottedMember (start : Nat) (object : Node) : Parser Node := do
  match ← peekKind with
  | .privateName text =>
    let property ← leaf (.privateName text)
    exprNode .privateMember start [object, property]
  | _ =>
    let property ← identifierName
    exprNode .member start [object, property]

def indexedMember (goals : Goals) (start : Nat) (object : Node) : Parser Node := do
  expect "["
  let index ← bracketed goals .expression
  expect "]"
  exprNode .computedMember start [object, index]

def optionalLink (goals : Goals) (start : Nat) (object : Node) : Parser Node := do
  let generics ← if ← isTypescript then
      if ← atAnyMark ["<", "<<"] then pure [← typeArguments goals] else pure []
    else pure []
  if ← atMark "(" then
    let args ← callArguments goals
    exprNode .call start (object :: generics ++ args)
  else if !generics.isEmpty then unexpected
  else if ← atMark "[" then indexedMember goals start object
  else dottedMember start object

/-- One more link behind an expression. Calls and optional links do not belong to the callee of
`new`. -/
def linkStep (goals : Goals) (start : Nat) (calls : Bool) (link : Link) : Parser (Option Link) := do
  let object := link.value
  let same := fun value => some { link with value : Link }
  match ← peekKind with
  | .punctuation "." =>
    advance
    return same (← dottedMember start object)
  | .punctuation "[" => return same (← indexedMember goals start object)
  | .punctuation "?." =>
    unless calls do unexpected
    advance
    return some ⟨← optionalLink goals start object, true⟩
  | .punctuation "!" =>
    if (← isTypescript) && !(← newlineBefore) then
      advance
      return same (← exprNode .nonNull start [object])
    else return none
  | .template _ _ =>
    if link.isChain then unexpected
    let quasi ← templateLiteral goals (.exprPart .template) true
    return same (← exprNode .taggedTemplate start [object, quasi])
  | .punctuation "(" =>
    unless calls do return none
    let args ← callArguments goals
    return same (← exprNode .call start (object :: args))
  | .punctuation "<" | .punctuation "<<" =>
    match ← expressionTypeArguments? goals with
    | none => return none
    | some generics =>
      match ← peekKind with
      | .template _ _ =>
        if link.isChain then unexpected
        let quasi ← templateLiteral goals (.exprPart .template) true
        return same (← exprNode .taggedTemplate start [object, generics, quasi])
      | .punctuation "(" =>
        if calls then
          let args ← callArguments goals
          return same (← exprNode .call start (object :: generics :: args))
        else return same (← exprNode .instantiation start [object, generics])
      | _ => return same (← exprNode .instantiation start [object, generics])
  | _ => return none

/-- `new` with its callee and arguments, where nested ones are allowed. -/
def newExpressionUpTo (goals : Goals) : (fuel : Nat) → Parser Node
  | 0 => fail .tooDeep
  | fuel + 1 => do
    let start ← startOffset
    let keyword ← identifierName
    if ← accept "." then
      let property ← identifierName
      match property.kind with
      | .name "target" => return ← exprNode .metaProperty start [keyword, property]
      | _ => unexpected
    let calleeStart ← startOffset
    if ← atWord "import" then
      let isMeta ← ahead do
        advance
        atMark "."
      unless isMeta do unexpected
    let head ← if ← atWord "new" then newExpressionUpTo goals fuel else primary goals
    let callee ← grow (linkStep goals calleeStart false) { value := head }
    let (callee, generics) :=
      match callee.value.kind, callee.value.children with
      | .expr .instantiation, [inner, args] => (inner, [args])
      | _, _ => (callee.value, [])
    let args ← if ← atMark "(" then callArguments goals else pure []
    if ← atMark "?." then unexpected
    exprNode .newCall start (callee :: generics ++ args)

/-- Closes an optional chain: its outermost link is part of the chain and no expression. -/
def closeChain (link : Link) : Node :=
  if link.isChain then
    match link.value.kind with
    | .expr .call | .expr .member | .expr .computedMember | .expr .privateMember | .expr .nonNull =>
      .mk (.expr .chain) link.value.span [link.value.toPart]
    | _ => link.value
  else link.value

/-- Members and calls. -/
def leftHandSide (goals : Goals) : Parser Node := do
  let start ← startOffset
  let head ← if ← atWord "new" then newExpressionUpTo goals ((← read).source.size + 1)
    else primary goals
  let link ← grow (linkStep goals start true) { value := head }
  return closeChain link

/-! ### Operators -/

/-- Increments and decrements, and what binds tighter. -/
def updateExpression (goals : Goals) : Parser Node := do
  let start ← startOffset
  if ← atAnyMark ["++", "--"] then
    advance
    let value ← toSimpleTarget (← goals .unary)
    exprNode .update start [value]
  else
    let value ← leftHandSide goals
    if (← atAnyMark ["++", "--"]) && !(← newlineBefore) then
      let value ← toSimpleTarget value
      advance
      exprNode .update start [value]
    else return value

def unaryExpression (goals : Goals) : Parser Node := do
  let start ← startOffset
  let isOperator ← do
    if ← atAnyMark ["+", "-", "!", "~"] then pure true
    else atAnyWord ["typeof", "void", "delete"]
  if isOperator then
    advance
    let value ← goals .unary
    return ← exprNode .unary start [value]
  if (← atWord "await") && (← read).inAsync then
    advance
    let value ← goals .unary
    return ← exprNode .await start [value]
  let ctx ← read
  if (← atMark "<") && ctx.dialect.typescript && !ctx.dialect.jsx then
    advance
    let type ← insideBrackets (goals .type)
    expect ">"
    let value ← goals .unary
    return ← exprNode .typeAssertion start [type, value]
  updateExpression goals

structure Operator where
  precedence : Nat
  isRight : Bool := false
  form : Expr := .binary

def operatorOfMark? : String → Option Operator
  | "??" => some { precedence := 1, form := .logical true }
  | "||" => some { precedence := 2, form := .logical false }
  | "&&" => some { precedence := 3, form := .logical false }
  | "|" => some { precedence := 4 }
  | "^" => some { precedence := 5 }
  | "&" => some { precedence := 6 }
  | "==" | "!=" | "===" | "!==" => some { precedence := 7 }
  | "<" | ">" | "<=" | ">=" => some { precedence := 8 }
  | "<<" | ">>" | ">>>" => some { precedence := 9 }
  | "+" | "-" => some { precedence := 10 }
  | "*" | "/" | "%" => some { precedence := 11 }
  | "**" => some { precedence := 12, isRight := true }
  | _ => none

def relational : Operator := { precedence := 8 }

/-- The operator at the current token, joining a closing angle bracket to what follows it. -/
def operator? : Parser (Option Operator) := do
  if ← atMark ">" then
    let mark := greaterMark (← read).source (← startOffset)
    retoken (.punctuation mark) ((← startOffset) + mark.utf8ByteSize)
  match ← peekKind with
  | .punctuation mark => return operatorOfMark? mark
  | .word "instanceof" false => return some relational
  | .word "in" false => return if (← read).allowIn then some relational else none
  | .word "as" false | .word "satisfies" false =>
    if (← isTypescript) && !(← newlineBefore) then return some relational else return none
  | _ => return none

/-- `??` does not mix with the other logical operators unless parentheses keep them apart. -/
def mixesCoalescing (form : Expr) (operand : Node) : Bool :=
  match form, operand.expr? with
  | .logical a, some (.logical b) => a != b
  | _, _ => false

/-- A base of a power may carry no unary operator. -/
def isUnaryOperand (n : Node) : Bool :=
  match n.expr? with
  | some .unary | some .await | some .typeAssertion => true
  | _ => false

/-- The first operand of an operator, which may be a private name before `in`. -/
def firstOperand (goals : Goals) : Parser Node := do
  match ← peekKind with
  | .privateName text =>
    let name ← leaf (.privateName text)
    unless (← atWord "in") && (← read).allowIn do unexpected
    return name
  | _ => unaryExpression goals

/-- Operators that bind tighter than a given precedence. -/
def binaryUpTo (goals : Goals) : (fuel : Nat) → (minimum : Nat) → Parser Node
  | 0, _ => fail .tooDeep
  | fuel + 1, minimum => do
    let start ← startOffset
    let first ← firstOperand goals
    grow (fun left => do
      match ← operator? with
      | none => return none
      | some op =>
        unless if op.isRight then op.precedence ≥ minimum else op.precedence > minimum do
          return none
        if op.isRight && isUnaryOperand left then unexpected
        let isAs ← atAnyWord ["as"]
        if isAs || (← atWord "satisfies") then
          advance
          let type ← goals .type
          return some (← exprNode (if isAs then .asType else .satisfiesType) start [left, type])
        advance
        let right ← binaryUpTo goals fuel op.precedence
        if mixesCoalescing op.form left || mixesCoalescing op.form right then unexpected
        let form := match left.kind with
          | .privateName _ => .privateIn
          | _ => op.form
        return some (← exprNode form start [left, right])) first

def binaryExpression (goals : Goals) : Parser Node := do
  binaryUpTo goals ((← read).source.size + 2) 0

/-! ### Arrow functions -/

/-- Whether a parenthesis or an angle bracket opens an arrow function. -/
inductive ArrowGuess where
  | yes | no | maybe
  deriving DecidableEq

/-- A guess about a parenthesis, from the tokens behind it. -/
def guessAfterParenthesis : Parser ArrowGuess := do
  if ← accept ")" then
    return if ← atAnyMark ["=>", ":", openBrace] then .yes else .no
  if ← atAnyMark ["[", openBrace] then return .maybe
  if ← atMark "..." then return .yes
  if (← isTypescript) && (← atAnyWord parameterModifiers) then
    let isModifier ← ahead do
      advance
      return (← atIdentifier) && !(← atWord "as")
    if isModifier then return .yes
  unless (← atIdentifier) || (← atWord "this") do return .no
  advance
  if ← atMark ":" then return if ← isTypescript then .yes else .no
  if ← accept "?" then
    return if ← atAnyMark [":", ",", "=", ")"] then .yes else .no
  if ← atAnyMark [",", "=", ")"] then return .maybe
  return .no

/-- A guess about an angle bracket. Where elements may stand, only a comma or a bound after the
first parameter tells type parameters from a tag. -/
def guessAfterAngle : Parser ArrowGuess := do
  unless (← atIdentifier) || (← atWord "const") do return .no
  if (← read).dialect.jsx then
    let _ ← acceptWord "const"
    advance
    if ← acceptWord "extends" then
      return if ← atAnyMark ["=", ">", "/"] then .no else .yes
    return if ← atAnyMark [",", "="] then .yes else .no
  else return .maybe

def guessArrow : Parser ArrowGuess := fun ctx st =>
  let question : Parser ArrowGuess := do
    if ← atWord "async" then
      advance
      if (← newlineBefore) || !(← atAnyMark ["(", "<"]) then return .no
    if ← accept "(" then guessAfterParenthesis
    else if ← isTypescript then
      if ← accept "<" then guessAfterAngle else return .no
    else return .no
  match question ctx st with
  | .ok (guess, _) => .ok (guess, st)
  | .error _ => .ok (.no, st)

/-- The body of an arrow function: statements in braces, or one expression. -/
def arrowBody (goals : Goals) (start : Nat) (isAsync arrowReturnType : Bool) (head : List Node) :
    Parser Node := do
  if ← atMark openBrace then
    let body ← inFunction { isAsync } (functionBody goals)
    exprNode (.arrow false) start (head ++ [body])
  else
    let bodyStart ← startOffset
    let value ← withReader (fun ctx =>
        { ctx with inAsync := isAsync, inGenerator := false, inFunction := true })
      (goals (.assignment arrowReturnType))
    let statement ← node .expressionStatement bodyStart [value]
    let body ← node .functionBody bodyStart [statement]
    exprNode (.arrow true) start (head ++ [body])

/-- Everything up to the arrow, which stands on the same line. -/
def arrowHead (goals : Goals) (isAsync : Bool) : Parser (List Node) := do
  let head ← withReader (fun ctx =>
      { ctx with inAsync := ctx.inAsync || isAsync, allowIn := true }) do
    let generics ← typeParameters? goals
    let params ← parameters goals
    let result ← returnAscription? goals
    return generics ++ params ++ result
  if ← newlineBefore then unexpected
  expect "=>"
  return head

/-- A type is given to the result. -/
def hasResultType (head : List Node) : Bool :=
  head.any fun n => match n.kind with | .ascription => true | _ => false

/-- An arrow function with parameters in parentheses. -/
def parenthesizedArrow? (goals : Goals) (arrowReturnType : Bool) : Parser (Option Node) := do
  let start ← startOffset
  let whole : Parser Node := do
    let isAsync ← acceptWord "async"
    let head ← arrowHead goals isAsync
    let arrow ← arrowBody goals start isAsync arrowReturnType head
    -- in the middle of a conditional the colon belongs to the conditional
    if !arrowReturnType && hasResultType head && !(← atMark ":") then unexpected
    return arrow
  match ← guessArrow with
  | .no => return none
  | .yes => if arrowReturnType then return some (← whole) else attempt whole
  | .maybe =>
    let hasHead ← ahead do
      let isAsync ← acceptWord "async"
      let _ ← arrowHead goals isAsync
      return true
    if hasHead then
      if arrowReturnType then return some (← whole) else attempt whole
    else return none

/-- An arrow function whose only parameter is a bare name. -/
def simpleArrow? (goals : Goals) (arrowReturnType : Bool) : Parser (Option Node) := do
  let start ← startOffset
  let arrowAfterName : Parser Bool := do
    unless ← atIdentifier do return false
    advance
    return (← atMark "=>") && !(← newlineBefore)
  let isAsync ← ahead do
    unless ← acceptWord "async" do return false
    if ← newlineBefore then return false
    arrowAfterName
  unless isAsync || (← ahead arrowAfterName) do return none
  if isAsync then advance
  let nameStart ← startOffset
  let name ← bindingIdentifier
  let param ← node .parameter nameStart [name]
  let params ← node .parameters nameStart [param]
  expect "=>"
  return some (← arrowBody goals start isAsync arrowReturnType [params])

/-! ### Assignments and lists -/

def assignmentMarks : List String :=
  ["=", "+=", "-=", "*=", "/=", "%=", "**=", "<<=", ">>=", ">>>=", "&=", "|=", "^=", "&&=", "||=",
    "??="]

def yieldExpression (goals : Goals) : Parser Node := do
  let start ← startOffset
  expectWord "yield"
  if ← newlineBefore then return ← exprNode .yield start []
  if ← accept "*" then
    let value ← goals (.assignment true)
    return ← exprNode .yield start [value]
  let bare ← do
    if ← atAnyMark [")", "]", closeBrace, ",", ";", ":"] then pure true
    else pure ((← peekKind) == .endOfFile || (← atAnyWord ["in", "of"]))
  if bare then exprNode .yield start []
  else
    let value ← goals (.assignment true)
    exprNode .yield start [value]

/-- An expression without a comma at its top. -/
def assignmentExpression (goals : Goals) (arrowReturnType : Bool) : Parser Node := do
  let start ← startOffset
  if (← atWord "yield") && (← read).inGenerator then return ← yieldExpression goals
  if let some arrow ← parenthesizedArrow? goals arrowReturnType then return arrow
  if let some arrow ← simpleArrow? goals arrowReturnType then return arrow
  let left ← binaryExpression goals
  if ← atAnyMark assignmentMarks then
    let target ← if ← atMark "=" then toTarget left else toSimpleTarget left
    advance
    let right ← goals (.assignment arrowReturnType)
    return ← exprNode .assignment start [target, right]
  if ← accept "?" then
    let yes ← withReader (fun ctx => { ctx with allowIn := true }) (goals (.assignment false))
    expect ":"
    let no ← goals (.assignment arrowReturnType)
    return ← exprNode .conditional start [left, yes, no]
  return left

/-- An expression, or several with commas between them. -/
def commaExpression (goals : Goals) : Parser Node := do
  let start ← startOffset
  let first ← goals (.assignment true)
  let rest ← collect do
    unless ← accept "," do return none
    return some (← goals (.assignment true))
  if rest.isEmpty then return first
  exprNode .sequence start (first :: rest)

end JsxCheck.Grammar
