import JsxCheck.Rule.Name
import JsxCheck.Syntax.CallShape
import JsxCheck.Syntax.Element

/-!
Elements in array literals, and elements that a callback of `map` returns, need a `key`.
-/
namespace JsxCheck.Rule

namespace Keys

/-- A property written under the plain name `key`. -/
def isKeyProperty : Node → Bool
  | .mk (.property _) _ (.mk (.name text) _ _ :: _) => text == "key"
  | _ => false

/-- `{...{ key: id }}` -/
def isKeySpread : AttributeItem → Bool
  | .spread _ (.mk (.expr .object) _ properties) => properties.any isKeyProperty
  | _ => false

/-- The element is given a key. -/
def hasKey (o : Opening) : Bool := (o.find? "key").isSome || o.items.any isKeySpread

/-- An element without a key. -/
def missing (n : Node) : List Diagnostic :=
  match n.element? with
  | some e =>
    if hasKey e.opening then []
    else [RuleName.jsxKey.warning e.span "Missing \"key\" prop for element."]
  | none => []

/-- What the first `return` among the statements of a body returns. -/
def firstReturn? : List Node → Option Node
  | [] => none
  | .mk .returnStatement _ argument :: _ => argument.head?
  | _ :: rest => firstReturn? rest

/-- The statements of a function's body, directives left out. -/
def bodyOf? (function : Node) : Option (List Node) :=
  function.children.findSome? fun
    | .mk .functionBody _ statements =>
      some (statements.filter fun s =>
        match s.kind with
        | .directive => false
        | _ => true)
    | _ => none

/-- What a function returns: the body of a concise arrow, or the first `return` of another. -/
def returned? (function : Node) : Option Node := do
  let statements ← bodyOf? function
  match function.expr? with
  | some (.arrow true) =>
    match statements with
    | .mk .expressionStatement _ [e] :: _ => some e
    | _ => none
  | some (.arrow false) | some .function => firstReturn? statements
  | _ => none

/-- The first argument of `….map(argument, …)`. -/
def mapArgument? (call : Node) : Option Node :=
  match call.callee? with
  | some (.mk (.expr .member) _ [_, .mk (.name "map") _ _]) => call.arguments.head?
  | _ => none

end Keys

/-- Elements of an array literal. -/
def keysOfArray (array : Node) : List Diagnostic :=
  (array.children.filter (·.expr? == some .jsxElement)).flatMap Keys.missing

/-- The element that a callback of `map` returns. -/
def keyOfMapCall (call : Node) : List Diagnostic :=
  match (Keys.mapArgument? call).bind Keys.returned? with
  | some value =>
    if value.unwrapParens.expr? == some .jsxElement then Keys.missing value.unwrapParens else []
  | none => []

end JsxCheck.Rule
