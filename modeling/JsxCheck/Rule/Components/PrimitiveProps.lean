import JsxCheck.Rule.Name
import JsxCheck.Source.Document
import JsxCheck.Syntax.TypeShape

/-!
Properties of pure components that are written out where the component's type is given.
-/
namespace JsxCheck

/-- The names of the types that stateless components have. -/
def isStatelessTypeName (name : String) : Bool :=
  name == "React.SFC" || name == "React.StatelessFunctionalComponent"

/-- Object types and references in the one type argument of a stateless component's type. -/
def Rule.primitiveAttributes (doc : Document) (n : Node) : List Diagnostic :=
  match n.typeReference? with
  | some (name, [props]) =>
    if isStatelessTypeName (doc.text name.span) then
      let types := ((props.typeLiteral?).getD []).filterMap Node.propertyType?
      (types.filter fun t => t.typeLiteral?.isSome || t.isTypeReference).map fun t =>
        RuleName.reactPureComponentsHavePrimitiveAttributes.warning t.span
          ("Pure React components with non-primitive properties may fail shouldComponentUpdate() "
            ++ "checks, leading to excessive renders.")
    else []
  | _ => []

end JsxCheck
