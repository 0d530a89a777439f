import JsxCheck.Grammar.Expressions

/-!
Statements and declarations.
-/
namespace JsxCheck.Grammar

/-! ### Variables -/

/-- One variable or pattern, with its type and value. Constants and patterns need a value, unless
the declaration says nothing about one or a loop gives it. -/
def declarator (goals : Goals) (word : VariableWord) (inLoopHead : Bool) : Parser Node := do
  let start ← startOffset
  let pattern ← goals .pattern
  let isName := match pattern.kind with | .binding _ => true | _ => false
  if isName && (← isTypescript) && (← atMark "!") && !(← newlineBefore) then advance
  let type ← ascription? goals
  if ← accept "=" then
    let init ← goals (.assignment true)
    node .declarator start (pattern :: type ++ [init])
  else
    let isLoop ← do
      if inLoopHead then atAnyWord ["of", "in"] else pure false
    unless isLoop || (← read).ambient do
      if !isName || word == .constWord || word == .usingWord then fail (.expected "initializer")
    node .declarator start (pattern :: type)

def declarators (goals : Goals) (word : VariableWord) (inLoopHead : Bool) : Parser (List Node) := do
  let first ← declarator goals word inLoopHead
  let rest ← collect do
    unless ← accept "," do return none
    return some (← declarator goals word inLoopHead)
  return first :: rest

/-- The word that opens a declaration of variables, when one stands here. -/
def variableWord? : Parser (Option VariableWord) := do
  if ← atWord "var" then return some .varWord
  let isConst ← ahead do
    unless ← acceptWord "const" do return false
    return !(← atWord "enum")
  if isConst then return some .constWord
  let isLet ← ahead do
    unless ← acceptWord "let" do return false
    return (← atIdentifier) || (← atAnyMark ["[", openBrace])
  if isLet then return some .letWord
  let isUsing ← ahead do
    if (← read).inAsync then
      if ← acceptWord "await" then
        if ← newlineBefore then return false
    unless ← acceptWord "using" do return false
    return (← atIdentifier) && !(← newlineBefore) && !(← atAnyWord ["of", "in"])
  if isUsing then return some .usingWord
  return none

/-- Passes over the word that opens a declaration of variables. A resource can be awaited. -/
def skipVariableWord : Parser Unit := do
  let _ ← acceptWord "await"
  advance

def variableStatement (goals : Goals) (start : Nat) (word : VariableWord) : Parser Node := do
  skipVariableWord
  let items ← declarators goals word false
  endStatement
  node (.variables word) start items

/-! ### Blocks and control flow -/

def blockStatements (goals : Goals) : Parser (List Node) := do
  expect openBrace
  let statements ← collect do
    if ← atMark closeBrace then return none
    return some (← goals .statement)
  expect closeBrace
  return statements

def block (goals : Goals) : Parser Node := do
  let start ← startOffset
  let statements ← blockStatements goals
  node .block start statements

def condition (goals : Goals) : Parser Node := do
  expect "("
  let value ← bracketed goals .expression
  expect ")"
  return value

/-- An asynchronous function or a generator is declared here. -/
def atSuspendingFunction : Parser Bool := ahead do
  if ← acceptWord "async" then return (← atWord "function") && !(← newlineBefore)
  unless ← acceptWord "function" do return false
  atMark "*"

/-- The statement that another one governs. It may declare a plain function, but no name of its
block and no function that can be suspended. -/
def governed (goals : Goals) : Parser Node := do
  if ← atSuspendingFunction then fail (.misplaced "declaration")
  let n ← goals .statement
  match n.kind with
  | .variables .letWord | .variables .constWord | .variables .usingWord | .classDeclaration =>
    throw ⟨n.span.start, .misplaced "declaration"⟩
  | _ => return n

def ifStatement (goals : Goals) : Parser Node := do
  let start ← startOffset
  advance
  let test ← condition goals
  let yes ← governed goals
  let no ← if ← acceptWord "else" then pure [← governed goals] else pure []
  node .ifStatement start (test :: yes :: no)

def whileStatement (goals : Goals) : Parser Node := do
  let start ← startOffset
  advance
  let test ← condition goals
  let body ← governed goals
  node .whileStatement start [test, body]

def doStatement (goals : Goals) : Parser Node := do
  let start ← startOffset
  advance
  let body ← governed goals
  expectWord "while"
  let test ← condition goals
  let _ ← accept ";"
  node .doStatement start [body, test]

/-- A loop over the properties or the elements of a value, behind its left side. Only elements can
be awaited. -/
def eachLoop (goals : Goals) (start : Nat) (awaits : Bool) (left : Node) : Parser Node := do
  let isOf ← atWord "of"
  if awaits && !isOf then unexpected
  advance
  let right ← if isOf then bracketed goals (.assignment true) else bracketed goals .expression
  expect ")"
  let body ← governed goals
  node (if isOf then .forOfStatement else .forInStatement) start [left, right, body]

/-- The rest of a loop with three parts, in which nothing is awaited. -/
def countingLoop (goals : Goals) (start : Nat) (awaits : Bool) (init : List Node) :
    Parser Node := do
  if awaits then unexpected
  expect ";"
  let test ← if ← atMark ";" then pure [] else pure [← bracketed goals .expression]
  expect ";"
  let update ← if ← atMark ")" then pure [] else pure [← bracketed goals .expression]
  expect ")"
  let body ← governed goals
  node .forStatement start (init ++ test ++ update ++ [body])

/-- Parses where `in` ends the head of a loop. -/
def withoutIn {α : Type} (p : Parser α) : Parser α :=
  withReader (fun ctx => { ctx with allowIn := false }) p

def forStatement (goals : Goals) : Parser Node := do
  let start ← startOffset
  advance
  let awaits ← if (← read).inAsync then acceptWord "await" else pure false
  expect "("
  if ← atMark ";" then return ← countingLoop goals start awaits []
  let initStart ← startOffset
  match ← variableWord? with
  | some word =>
    skipVariableWord
    let items ← withoutIn (declarators goals word true)
    let left ← node (.variables word) initStart items
    if ← atAnyWord ["of", "in"] then
      if items.length != 1 then unexpected
      eachLoop goals start awaits left
    else countingLoop goals start awaits [left]
  | none =>
    let init ← withoutIn (goals .expression)
    if ← atAnyWord ["of", "in"] then
      let target ← toTarget init
      eachLoop goals start awaits target
    else countingLoop goals start awaits [init]

def switchCase (goals : Goals) : Parser Node := do
  let start ← startOffset
  let test ← if ← acceptWord "default" then pure [] else
    expectWord "case"
    pure [← bracketed goals .expression]
  expect ":"
  let body ← collect do
    if (← atMark closeBrace) || (← atAnyWord ["case", "default"]) then return none
    return some (← goals .statement)
  node .switchCase start (test ++ body)

def switchStatement (goals : Goals) : Parser Node := do
  let start ← startOffset
  advance
  let value ← condition goals
  expect openBrace
  let cases ← collect do
    if ← atMark closeBrace then return none
    return some (← switchCase goals)
  expect closeBrace
  node .switchStatement start (value :: cases)

def catchClause (goals : Goals) : Parser Node := do
  let start ← startOffset
  expectWord "catch"
  let param ← if ← accept "(" then
      let paramStart ← startOffset
      let pattern ← goals .pattern
      let type ← ascription? goals
      let param ← node .catchParameter paramStart (pattern :: type)
      expect ")"
      pure [param]
    else pure []
  let body ← block goals
  node .catchClause start (param ++ [body])

def tryStatement (goals : Goals) : Parser Node := do
  let start ← startOffset
  advance
  let body ← block goals
  let handler ← if ← atWord "catch" then pure [← catchClause goals] else pure []
  let finalizer ← if ← acceptWord "finally" then pure [← block goals] else pure []
  if handler.isEmpty && finalizer.isEmpty then fail (.expected "catch")
  node .tryStatement start (body :: handler ++ finalizer)

/-- A statement of one word and an optional expression on the same line. -/
def jumpWithValue (goals : Goals) (kind : Kind) (needsValue : Bool) : Parser Node := do
  let start ← startOffset
  advance
  let value ← if ← canEndStatement then pure [] else pure [← bracketed goals .expression]
  if needsValue && value.isEmpty then unexpected
  endStatement
  node kind start value

/-- A jump to a label, which may be left out. -/
def jumpToLabel (kind : Kind) : Parser Node := do
  let start ← startOffset
  advance
  if !(← canEndStatement) && (← atIdentifier) then advance
  endStatement
  node kind start []

/-! ### Declarations of types -/

/-- The name behind the word, on its line: what tells a declaration from the use of the word. -/
def namedOnSameLine (word : String) : Parser Bool := ahead do
  unless ← acceptWord word do return false
  return (← atIdentifier) && !(← newlineBefore)

def interfaceDeclaration (goals : Goals) (start : Nat) : Parser Node := do
  expectWord "interface"
  let name ← bindingIdentifier
  let generics ← typeParameters? goals
  let bases ← if ← acceptWord "extends" then
      let item : Parser Node := do
        let start ← startOffset
        let base ← goals .leftHandSide
        match base.kind, base.children with
        | .expr .instantiation, [inner, args] => node .heritage start [inner, args]
        | _, _ =>
          let args ← typeArguments? goals
          node .heritage start (base :: args)
      let first ← item
      let rest ← collect do
        unless ← accept "," do return none
        return some (← item)
      pure (first :: rest)
    else pure []
  let bodyStart ← startOffset
  let members ← typeMembers goals
  let body ← node .interfaceBody bodyStart members
  node .interfaceDeclaration start (name :: generics ++ bases ++ [body])

def typeAlias (goals : Goals) (start : Nat) : Parser Node := do
  expectWord "type"
  let name ← bindingIdentifier
  let generics ← typeParameters? goals
  expect "="
  let type ← goals .type
  endStatement
  node .typeAlias start (name :: generics ++ [type])

/-- A member of an enumeration. Its name is a word or a literal, bracketed or not. -/
def enumMember (goals : Goals) : Parser Node := do
  let start ← startOffset
  let name ← match ← peekKind with
    | .string value => leaf (.exprPart (.string value))
    | .punctuation "[" =>
      advance
      let name ← match ← peekKind with
        | .string value => leaf (.exprPart (.string value))
        | .template _ _ => templateLiteral goals (.exprPart .template) false
        | _ => unexpected
      expect "]"
      pure name
    | _ => identifierName
  let value ← if ← accept "=" then pure [← bracketed goals (.assignment true)] else pure []
  node .enumMember start (name :: value)

def enumDeclaration (goals : Goals) (start : Nat) : Parser Node := do
  let _ ← acceptWord "const"
  expectWord "enum"
  let name ← bindingIdentifier
  let bodyStart ← startOffset
  expect openBrace
  let members ← commaItems closeBrace (enumMember goals)
  let body ← node .enumBody bodyStart members
  node .enumDeclaration start [name, body]

def namespaceBlock (goals : Goals) : Parser Node := do
  let start ← startOffset
  let statements ← withReader (fun ctx => { ctx with inFunction := false }) (blockStatements goals)
  node .namespaceBlock start statements

/-- A namespace from its name on; a dotted name nests. -/
def namespaceUpTo (goals : Goals) (start : Nat) : (fuel : Nat) → Parser Node
  | 0 => fail .tooDeep
  | fuel + 1 => do
    let name ← bindingIdentifier
    if ← accept "." then
      let innerStart ← startOffset
      let inner ← namespaceUpTo goals innerStart fuel
      node .namespaceDeclaration start [name, inner]
    else
      let body ← namespaceBlock goals
      node .namespaceDeclaration start [name, body]

/-- `namespace N`, `module N` or `module "n"`. -/
def namespaceDeclaration (goals : Goals) (start : Nat) : Parser Node := do
  advance
  match ← peekKind with
  | .string value =>
    let name ← leaf (.exprPart (.string value))
    if ← atMark openBrace then
      let body ← namespaceBlock goals
      node .namespaceDeclaration start [name, body]
    else
      endStatement
      node .namespaceDeclaration start [name]
  | _ => namespaceUpTo goals start ((← read).source.size + 1)

def atNamespace : Parser Bool := ahead do
  let isModule ← atWord "module"
  unless isModule || (← atWord "namespace") do return false
  advance
  if ← newlineBefore then return false
  if ← atIdentifier then return true
  match ← peekKind with
  | .string _ => return isModule
  | _ => return false

/-- A block of global declarations starts here. -/
def atGlobalBlock : Parser Bool := ahead do
  unless ← acceptWord "global" do return false
  atMark openBrace

def globalBlock (goals : Goals) (start : Nat) : Parser Node := do
  expectWord "global"
  let body ← namespaceBlock goals
  node .globalBlock start [body]

/-- A class that need not define all its members starts here. -/
def atAbstractClass : Parser Bool := ahead do
  unless ← acceptWord "abstract" do return false
  return (← atWord "class") && !(← newlineBefore)

def atAsyncFunction : Parser Bool := ahead do
  unless ← acceptWord "async" do return false
  return (← atWord "function") && !(← newlineBefore)

/-- An import that gives a name to a module or a part of a namespace. -/
def importEquals (start : Nat) (name : Node) : Parser Node := do
  expect "="
  let isExternal ← ahead do
    unless ← acceptWord "require" do return false
    atMark "("
  if isExternal then
    let refStart ← startOffset
    advance
    expect "("
    match ← peekKind with
    | .string value =>
      let path ← leaf (.exprPart (.string value))
      expect ")"
      let module ← node .externalModule refStart [path]
      endStatement
      node .importEquals start [name, module]
    | _ => unexpected
  else
    let target ← entityName typeNameHead
    endStatement
    node .importEquals start [name, target]

/-- A declaration of something other than variables, with what stands in front of it consumed. -/
def declaration? (goals : Goals) (start : Nat) (decorated : List Node) : Parser (Option Node) := do
  if ← atWord "function" then return some (← functionDeclaration goals start false false)
  if ← atAsyncFunction then
    advance
    return some (← functionDeclaration goals start true false)
  if ← atWord "class" then return some (← classTail goals .classDeclaration start decorated false)
  unless ← isTypescript do return none
  if ← atAbstractClass then
    advance
    return some (← classTail goals .classDeclaration start decorated false)
  if ← namedOnSameLine "interface" then return some (← interfaceDeclaration goals start)
  if ← namedOnSameLine "type" then return some (← typeAlias goals start)
  let isEnum ← ahead do
    let _ ← acceptWord "const"
    atWord "enum"
  if isEnum then return some (← enumDeclaration goals start)
  if ← atNamespace then return some (← namespaceDeclaration goals start)
  if ← atGlobalBlock then return some (← globalBlock goals start)
  return none

/-- `declare` stands in front of a declaration. -/
def atDeclare : Parser Bool := ahead do
  unless ← acceptWord "declare" do return false
  if ← newlineBefore then return false
  if ← atAnyWord ["var", "let", "const", "function", "class", "enum"] then return true
  if (← atAbstractClass) || (← atAsyncFunction) || (← atNamespace) || (← atGlobalBlock) then
    return true
  return (← namedOnSameLine "interface") || (← namedOnSameLine "type")

def ambientDeclaration (goals : Goals) (start : Nat) : Parser Node := do
  expectWord "declare"
  withReader (fun ctx => { ctx with ambient := true }) do
    match ← variableWord? with
    | some word => variableStatement goals start word
    | none =>
      match ← declaration? goals start [] with
      | some n => return n
      | none => unexpected

/-! ### Imports -/

def modulePath : Parser Node := do
  match ← peekKind with
  | .string value => leaf (.exprPart (.string value))
  | _ => fail (.expected "string")

/-- Attributes of an import, behind `with`. -/
def importAttributes? : Parser (List Node) := do
  let isWith ← do
    if ← atWord "with" then pure true else pure ((← atWord "assert") && !(← newlineBefore))
  unless isWith do return []
  advance
  expect openBrace
  commaItems closeBrace do
    let start ← startOffset
    let key ← match ← peekKind with
      | .string value => leaf (.exprPart (.string value))
      | _ => identifierName
    expect ":"
    let value ← modulePath
    node .importAttribute start [key, value]

/-- A name in an import or export list: a word or a string. -/
def moduleName (kind : String → Kind) : Parser Node := do
  match ← peekKind with
  | .string value => leaf (.exprPart (.string value))
  | .word text _ => leaf (kind text)
  | _ => fail (.expected "name")

/-- The word `type` in front of a name that is itself imported or exported. -/
def skipTypeModifier : Parser Unit := do
  let isModifier ← ahead do
    unless ← acceptWord "type" do return false
    if ← atAnyMark [",", closeBrace] then return false
    if ← acceptWord "as" then
      -- `type as` names the binding, `type as as x` modifies one called `as`
      if ← atAnyMark [",", closeBrace] then return true
      if ← acceptWord "as" then return !(← atAnyMark [",", closeBrace])
      return false
    return true
  if (← isTypescript) && isModifier then advance

/-- One name of an import list: what is imported, and what it is called here. -/
def importSpecifier : Parser Node := do
  skipTypeModifier
  let start ← startOffset
  let span := (← peek).span
  let word ← identifier?
  let imported ← moduleName .name
  if ← acceptWord "as" then
    let local_ ← bindingIdentifier
    node .importSpecifier start [imported, local_]
  else
    match word with
    | some text => node .importSpecifier start [imported, .mk (.binding text) span []]
    | none => unexpected

def importList : Parser (List Node) := do
  expect openBrace
  commaItems closeBrace importSpecifier

/-- `* as name`. -/
def namespaceImport : Parser Node := do
  let start ← startOffset
  expect "*"
  expectWord "as"
  let name ← bindingIdentifier
  node .importNamespace start [name]

/-- `type` stands in front of what is imported, and is not itself imported. -/
def atTypeImport : Parser Bool := ahead do
  unless ← acceptWord "type" do return false
  if ← atAnyMark ["*", openBrace] then return true
  unless ← atIdentifier do return false
  if ← acceptWord "from" then return (← atWord "from") || (← atMark "=")
  return true

/-- The phase of an import stands in front of what is imported, and is not itself imported. -/
def atImportPhase : Parser Bool := ahead do
  if ← acceptWord "defer" then return ← atMark "*"
  unless ← acceptWord "source" do return false
  unless ← atIdentifier do return false
  if ← acceptWord "from" then return ← atWord "from"
  return true

/-- An import from the word `import` on. -/
def importDeclaration (start : Nat) : Parser Node := do
  expectWord "import"
  if let .string _ ← peekKind then
    let path ← modulePath
    let attributes ← importAttributes?
    endStatement
    return ← node .importDeclaration start (path :: attributes)
  if (← isTypescript) && (← atTypeImport) then advance
  else if ← atImportPhase then advance
  let default ← if ← atIdentifier then
      let nameStart ← startOffset
      let name ← bindingIdentifier
      if (← isTypescript) && (← atMark "=") then return ← importEquals start name
      pure [← node .importDefault nameStart [name]]
    else pure []
  let hasNames ← if default.isEmpty then pure true else accept ","
  let names ← if hasNames then
      if ← atMark "*" then pure [← namespaceImport] else importList
    else pure []
  expectWord "from"
  let path ← modulePath
  let attributes ← importAttributes?
  endStatement
  node .importDeclaration start (default ++ names ++ path :: attributes)

/-! ### Exports -/

/-- One name of an export list. Without a path behind the list the first name refers to a binding. -/
def exportSpecifier : Parser Node := do
  skipTypeModifier
  let start ← startOffset
  let span := (← peek).span
  let inner ← moduleName fun text => .exprPart (.identifier text)
  if ← acceptWord "as" then
    let outer ← moduleName .name
    node .exportSpecifier start [inner, outer]
  else
    let outer := match inner.form? with
      | some (.identifier text) => Node.mk (.name text) span []
      | _ => inner
    node .exportSpecifier start [inner, outer]

/-- A name exported from elsewhere refers to nothing here. -/
def forwardedSpecifier : Node → Node
  | .mk .exportSpecifier span [inner, outer] =>
    match inner.form? with
    | some (.identifier text) => .mk .exportSpecifier span [.mk (.name text) inner.span [], outer]
    | _ => .mk .exportSpecifier span [inner, outer]
  | n => n

/-- The names in a list that has no path behind it must be names and no strings or reserved words. -/
def exportsBinding (ctx : Context) (n : Node) : Bool :=
  match n.children.head?.bind Node.form? with
  | some (.identifier text) => isIdentifierWord ctx text
  | _ => false

/-- A list of names, from here or from another module. -/
def exportList (start : Nat) : Parser Node := do
  expect openBrace
  let names ← commaItems closeBrace exportSpecifier
  if ← acceptWord "from" then
    let path ← modulePath
    let attributes ← importAttributes?
    endStatement
    node .exportNamed start (names.map forwardedSpecifier ++ path :: attributes)
  else
    unless names.all (exportsBinding (← read)) do unexpected
    endStatement
    node .exportNamed start names

/-- Everything of a module, under one name or under its own names. -/
def exportEverything (start : Nat) : Parser Node := do
  expect "*"
  let name ← if ← acceptWord "as" then pure [← moduleName .name] else pure []
  expectWord "from"
  let path ← modulePath
  let attributes ← importAttributes?
  endStatement
  node .exportAll start (name ++ path :: attributes)

def exportDefault (goals : Goals) (start : Nat) (decorated : List Node) : Parser Node := do
  expectWord "default"
  let outerDecorated := decorated
  let innerStart ← startOffset
  let decorated := outerDecorated ++ (← decorators goals)
  let value ← do
    if ← atWord "function" then functionDeclaration goals innerStart false true
    else if ← atAsyncFunction then
      advance
      functionDeclaration goals innerStart true true
    else if ← atWord "class" then classTail goals .classDeclaration innerStart decorated true
    else if (← isTypescript) && (← atAbstractClass) then
      advance
      classTail goals .classDeclaration innerStart decorated true
    else if (← isTypescript) && (← namedOnSameLine "interface") then
      interfaceDeclaration goals innerStart
    else
      let value ← bracketed goals (.assignment true)
      endStatement
      pure value
  node .exportDefault start [value]

/-- An export from the word `export` on. -/
def exportDeclaration (goals : Goals) (start : Nat) (decorated : List Node) : Parser Node := do
  expectWord "export"
  let typed ← isTypescript
  if ← atWord "default" then return ← exportDefault goals start decorated
  if ← atMark "*" then return ← exportEverything start
  if ← atMark openBrace then return ← exportList start
  if typed then
    if ← accept "=" then
      let value ← bracketed goals .expression
      endStatement
      return ← node .exportAssignment start [value]
    let isNamespace ← ahead do
      unless ← acceptWord "as" do return false
      atWord "namespace"
    if isNamespace then
      advance
      advance
      let name ← identifierName
      endStatement
      return ← node .exportNamespace start [name]
    let isTypeList ← ahead do
      unless ← acceptWord "type" do return false
      atAnyMark ["*", openBrace]
    if isTypeList then
      advance
      return ← if ← atMark "*" then exportEverything start else exportList start
    if ← atWord "import" then
      let inner ← startOffset
      advance
      let name ← bindingIdentifier
      let declared ← importEquals inner name
      return ← node .exportNamed start [declared]
  let innerStart ← startOffset
  let decorated := decorated ++ (← decorators goals)
  let declared ← do
    if typed && (← atDeclare) then ambientDeclaration goals innerStart
    else
      match ← variableWord? with
      | some word => variableStatement goals innerStart word
      | none =>
        match ← declaration? goals innerStart decorated with
        | some n => pure n
        | none => unexpected
  node .exportNamed start [declared]

/-! ### Statements -/

/-- A label and the statement it marks. -/
def labeled? (goals : Goals) : Parser (Option Node) := do
  let start ← startOffset
  let isLabel ← ahead do
    unless ← atIdentifier do return false
    advance
    atMark ":"
  unless isLabel do return none
  advance
  advance
  let body ← governed goals
  return some (← node .labeledStatement start [body])

def expressionStatement (goals : Goals) : Parser Node := do
  let start ← startOffset
  let value ← bracketed goals .expression
  endStatement
  node .expressionStatement start [value]

/-- A declaration or an expression: what starts with neither a mark nor a word of control flow. -/
def otherStatement (goals : Goals) : Parser Node := do
  let start ← startOffset
  if let some word ← variableWord? then return ← variableStatement goals start word
  if (← isTypescript) && (← atDeclare) then return ← ambientDeclaration goals start
  if let some n ← declaration? goals start [] then return n
  if let some n ← labeled? goals then return n
  expressionStatement goals

/-- A decorated class, exported or not. -/
def decoratedStatement (goals : Goals) : Parser Node := do
  let start ← startOffset
  let decorated ← decorators goals
  if ← atWord "export" then exportDeclaration goals (← startOffset) decorated
  else
    match ← declaration? goals start decorated with
    | some n => return n
    | none => unexpected

/-- A word `import` that opens a declaration and no expression. -/
def atImportDeclaration : Parser Bool := ahead do
  unless ← acceptWord "import" do return false
  return !(← atAnyMark ["(", "."])

def statement (goals : Goals) : Parser Node := do
  let start ← startOffset
  match ← peekKind with
  | .punctuation "\x7b" => block goals
  | .punctuation ";" =>
    advance
    node .emptyStatement start []
  | .punctuation "@" => decoratedStatement goals
  | .word word false =>
    match word with
    | "if" => ifStatement goals
    | "while" => whileStatement goals
    | "do" => doStatement goals
    | "for" => forStatement goals
    | "switch" => switchStatement goals
    | "try" => tryStatement goals
    | "return" =>
      unless (← read).inFunction || !(← read).dialect.isModule do fail (.misplaced "return")
      jumpWithValue goals .returnStatement false
    | "throw" => jumpWithValue goals .throwStatement true
    | "break" => jumpToLabel .breakStatement
    | "continue" => jumpToLabel .continueStatement
    | "debugger" =>
      advance
      endStatement
      node .debuggerStatement start []
    | "with" =>
      advance
      let value ← condition goals
      let body ← governed goals
      node .withStatement start [value, body]
    | "import" =>
      if ← atImportDeclaration then importDeclaration start else expressionStatement goals
    | "export" => exportDeclaration goals start []
    | _ => otherStatement goals
  | _ => otherStatement goals

end JsxCheck.Grammar
