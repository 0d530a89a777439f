import JsxCheck.Rule.Name
import JsxCheck.Syntax.Node

/-!
Identifiers that components should not use.
-/
namespace JsxCheck

/-- The identifier that a node is: a reference, a binding, or a name of a property or a tag. Labels
and private names are none. -/
def Node.identifier? (n : Node) : Option String :=
  match n.kind with
  | .name text | .binding text | .jsxName text => some text
  | .expr (.identifier text) | .exprPart (.identifier text) => some text
  | _ => none

/-- Every use of the name `propTypes`. -/
def Rule.noProptypes (n : Node) : List Diagnostic :=
  if n.identifier? == some "propTypes" then
    [RuleName.componentNoProptypes.warning n.span
      "PropTypes are forbidden as TypeScript should manage type checking, not React"]
  else []

end JsxCheck
