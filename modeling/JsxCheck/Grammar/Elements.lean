import JsxCheck.Grammar.Types
import JsxCheck.Syntax.Tag

/-!
JSX elements and fragments.

Between the tags of an element text is read as it stands, so each bracket or brace that is followed
by a child moves on with the reader for children.
-/
namespace JsxCheck.Grammar

/-! ### Names -/

/-- A name of a tag, an attribute or a part of one; hyphens may join its words. -/
def jsxIdentifier : Parser Node := do
  match ← peekKind with
  | .word text false =>
    let source := (← read).source
    let span := (← peek).span
    let stop := jsxNameStop source span.stop
    let whole := text ++ (source.slice? span.stop stop).getD ""
    retoken (.word whole false) stop
    leaf (.jsxName whole)
  | _ => fail (.expected "name")

def jsxText (n : Node) : String :=
  match n.kind with
  | .jsxName text => text
  | _ => ""

/-- A tag name that refers to a component: no lower-case letter in front and no hyphen inside. -/
def isComponentName (text : String) : Bool :=
  !(text.toList.head?.any Char.isLower) && !text.toList.contains '-'

def tagObject (n : Node) : Parser Node := do
  let text := jsxText n
  if text.toList.contains '-' then fail (.misplaced "hyphen")
  if text == "this" then return .mk (.exprPart .this) n.span []
  else return .mk (.exprPart (.identifier text)) n.span []

def tagNameNode : Parser Node := do
  let start ← startOffset
  let first ← jsxIdentifier
  if ← accept ":" then
    let second ← jsxIdentifier
    node .jsxNamespaced start [first, second]
  else if ← atMark "." then
    let head ← tagObject first
    grow (fun object => do
      unless ← accept "." do return none
      let property ← jsxIdentifier
      return some (← node .jsxMember start [object, property])) head
  else
    let text := jsxText first
    if text == "this" then return .mk (.exprPart .this) first.span []
    else if isComponentName text then return .mk (.exprPart (.identifier text)) first.span []
    else return first

/-! ### Attributes -/

def bracedExpression (goals : Goals) : Parser Node :=
  withReader (fun ctx => { ctx with allowIn := true }) (goals .expression)

/-- A container as the value of an attribute, which must hold an expression. -/
def attributeContainer (goals : Goals) : Parser Node := do
  let start ← startOffset
  expect openBrace
  if ← atMark closeBrace then unexpected
  let value ← bracedExpression goals
  expect closeBrace
  node .jsxContainer start [value]

def attributeValue (goals : Goals) : Parser Node := do
  match ← peekKind with
  | .string value => leaf (.exprPart (.string value))
  | .punctuation "\x7b" => attributeContainer goals
  | .punctuation "<" => return (← goals (.jsx false)).toPart
  | _ => unexpected

def attributeItem (goals : Goals) : Parser Node := do
  let start ← startOffset
  if ← accept openBrace then
    expect "..."
    let value ← bracedExpression goals
    expect closeBrace
    return ← node .jsxSpreadAttribute start [value]
  let first ← jsxIdentifier
  let name ← if ← accept ":" then
      let second ← jsxIdentifier
      node .jsxNamespaced start [first, second]
    else pure first
  if ← atMark "=" then
    advanceToAttributeValue
    let value ← attributeValue goals
    node .jsxAttribute start [name, value]
  else node .jsxAttribute start [name]

/-! ### Tags and children -/

/-- Consumes the bracket that ends an element. -/
def endElement (isChild : Bool) : Parser Unit := do
  unless ← atMark ">" do fail (.expected ">")
  if isChild then advanceToChild else advance

/-- A child in braces: an expression, a spread or nothing. -/
def bracedChild (goals : Goals) : Parser Node := do
  let start ← startOffset
  expect openBrace
  let isSpread ← accept "..."
  let content ← if ← atMark closeBrace then
      if isSpread then unexpected
      pure (Node.mk .jsxEmpty ⟨start + 1, ← startOffset⟩ [])
    else bracedExpression goals
  unless ← atMark closeBrace do fail (.expected closeBrace)
  advanceToChild
  node (if isSpread then .jsxSpreadChild else .jsxContainer) start [content]

def elementChildren (goals : Goals) : Parser (List Node) :=
  collect do
    match ← peekKind with
    | .jsxText =>
      let start ← startOffset
      advanceToChild
      return some (← node .jsxText start [])
    | .punctuation "\x7b" => return some (← bracedChild goals)
    | .punctuation "<" =>
      let closes ← ahead do
        advance
        atMark "/"
      if closes then return none
      return some (← goals (.jsx true)).toPart
    | _ => unexpected

def jsxElement (goals : Goals) (isChild : Bool) : Parser Node := do
  let start ← startOffset
  expect "<"
  if ← atMark ">" then
    advanceToChild
    let opening ← node .jsxFragmentOpening start []
    let children ← elementChildren goals
    let closeStart ← startOffset
    expect "<"
    expect "/"
    unless ← atMark ">" do fail .tagMismatch
    endElement isChild
    let closing ← node .jsxFragmentClosing closeStart []
    return ← exprNode .jsxFragment start (opening :: children ++ [closing])
  let name ← tagNameNode
  let args ← if ← isTypescript then typeArguments? goals else pure []
  let attributes ← collect do
    if ← atAnyMark [">", "/"] then return none
    return some (← attributeItem goals)
  if ← accept "/" then
    endElement isChild
    let opening ← node .jsxOpening start (name :: args ++ attributes)
    return ← exprNode .jsxElement start [opening]
  unless ← atMark ">" do fail (.expected ">")
  advanceToChild
  let opening ← node .jsxOpening start (name :: args ++ attributes)
  let children ← elementChildren goals
  let closeStart ← startOffset
  expect "<"
  expect "/"
  if ← atMark ">" then fail .tagMismatch
  let closingName ← tagNameNode
  unless closingName.tagName == name.tagName do fail .tagMismatch
  endElement isChild
  let closing ← node .jsxClosing closeStart [closingName]
  exprNode .jsxElement start (opening :: children ++ [closing])

end JsxCheck.Grammar
