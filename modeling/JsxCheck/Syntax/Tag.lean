import JsxCheck.Syntax.Node

/-!
Names of tags.
-/
namespace JsxCheck.Node

/-- The name of a tag as it is written: `div`, `Foo.Bar`, `svg:rect`, `this.Item`. -/
def tagName : Node → String
  | .mk (.jsxName text) _ _ => text
  | .mk (.expr (.identifier name)) _ _ => name
  | .mk (.exprPart (.identifier name)) _ _ => name
  | .mk (.expr .this) _ _ => "this"
  | .mk (.exprPart .this) _ _ => "this"
  | .mk .jsxNamespaced _ [first, second] => tagName first ++ ":" ++ tagName second
  | .mk .jsxMember _ [object, property] => tagName object ++ "." ++ tagName property
  | _ => ""

end JsxCheck.Node
