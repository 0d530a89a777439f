import JsxCheck.Syntax.Node

/-!
Types and declarations of types.
-/
namespace JsxCheck.Node

/-- A reference to a type: the name and the type arguments. -/
def typeReference? : Node → Option (Node × List Node)
  | mk .typeReference _ (name :: arguments) => some (name, arguments.flatMap children)
  | _ => none

def isTypeReference (n : Node) : Bool := n.typeReference?.isSome

/-- The members of a type written out in braces. -/
def typeLiteral? : Node → Option (List Node)
  | mk .typeLiteral _ members => some members
  | _ => none

def isPropertySignature : Node → Bool
  | mk .propertySignature _ _ => true
  | _ => false

def ascription? : Node → Option Node
  | mk .ascription _ [type] => some type
  | _ => none

def propertyType? : Node → Option Node
  | mk .propertySignature _ parts => parts.findSome? ascription?
  | _ => none

def bindingName? : Node → Option String
  | mk (.binding text) _ _ => some text
  | _ => none

/-- An interface: its name and its members. -/
def interface? : Node → Option (String × List Node)
  | mk .interfaceDeclaration _ parts => do
    let name ← parts.findSome? bindingName?
    let members ← parts.findSome? fun
      | mk .interfaceBody _ members => some members
      | _ => none
    some (name, members)
  | _ => none

def aliasType? : Node → Option Node
  | mk .typeAlias _ parts => parts.getLast?
  | _ => none

end JsxCheck.Node
