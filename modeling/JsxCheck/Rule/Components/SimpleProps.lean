import JsxCheck.Resolve.Resolver
import JsxCheck.Rule.Components.PrimitiveProps
import JsxCheck.Syntax.CallShape

/-!
Properties of pure components, also where their type is declared elsewhere.
-/
namespace JsxCheck.Rule

namespace SimpleProps

/-- The first type argument among the children of a visited node. -/
def firstTypeArgument? (v : Visit) : Option Visit :=
  (v.children.find? (·.node.isTypeArguments)).bind fun arguments => arguments.children.head?

/-- What a visited reference to a type is declared as; a name with dots is not followed. -/
def resolveType? (r : Resolver) (v : Visit) : Option Declaration :=
  if v.node.isTypeReference then v.children.head?.bind r.resolveReference else none

def literalMembers (v : Visit) : List Visit :=
  if v.node.typeLiteral?.isSome then v.children else []

def interfaceMembers (v : Visit) : List Visit :=
  v.children.flatMap fun part => if part.node.kind == .interfaceBody then part.children else []

/-- The members of the type of a component's properties. -/
def membersOf (r : Resolver) (props : Visit) : List Visit :=
  match resolveType? r props with
  | some ⟨.interface, declared⟩ => interfaceMembers declared
  | some ⟨.typeAlias, declared⟩ => (declared.children.getLast?.map literalMembers).getD []
  | _ => literalMembers props

/-- The type that a visited member is declared with. -/
def memberType? (member : Visit) : Option Visit :=
  if member.node.isPropertySignature then
    (member.children.find? fun part => part.node.kind == .ascription).bind (·.children.head?)
  else none

/-- Types written out in braces and interfaces. -/
def isComplex (r : Resolver) (v : Visit) : Bool :=
  v.node.typeLiteral?.isSome || (resolveType? r v).any (·.kind == .interface)

/-- What is wrong with the type of a component's properties. -/
def check (r : Resolver) (props : Visit) : List Diagnostic :=
  let types := (membersOf r props).filterMap memberType?
  (types.filter (isComplex r)).map fun t =>
    RuleName.reactPureComponentsHaveSimpleAttributes.warning t.node.span
      ("Pure React components with complex properties, such as objects, may fail "
        ++ "shouldComponentUpdate() checks, leading to excessive renders.")

/-- The properties of a class that extends `React.PureComponent`. -/
def ofClass? (doc : Document) (v : Visit) : Option Visit :=
  if v.node.isClass && v.node.superText? doc.source == some "React.PureComponent" then
    (v.children.find? fun part => part.node.kind == .heritage).bind firstTypeArgument?
  else none

/-- The properties in the type of a stateless component. -/
def ofTypeReference? (doc : Document) (v : Visit) : Option Visit :=
  match v.node.typeReference? with
  | some (name, _) =>
    if isStatelessTypeName (doc.text name.span) then firstTypeArgument? v else none
  | none => none

end SimpleProps

/-- Complex properties of the pure component that a visited node declares. -/
def simpleAttributes (r : Resolver) (doc : Document) (v : Visit) : List Diagnostic :=
  match SimpleProps.ofClass? doc v <|> SimpleProps.ofTypeReference? doc v with
  | some props => SimpleProps.check r props
  | none => []

end JsxCheck.Rule
