import JsxCheck.Resolve.Resolver
import JsxCheck.Rule.Name
import JsxCheck.Syntax.Element

/-!
Methods handed to properties, where they lose the object they belong to.
-/
namespace JsxCheck

namespace Rule

namespace MethodRefs

/-- The class declares a method of a name, on itself or on its instances. -/
def hasMethod (isStatic : Bool) (name : String) (class_ : Node) : Bool :=
  class_.classMembers.any fun member =>
    member.kind == .method .method isStatic && member.methodName? == some name

/-- `name() { }` in an object literal. -/
def isMethodProperty (name : String) : Node → Bool
  | .mk (.property form) _ (key :: _) => form.isMethod && key.keyName? == some name
  | _ => false

/-- What a variable is declared to be at first. -/
def initializer? (declarator : Node) : Option Node :=
  declarator.children.getLast?.filter Node.isExpr

/-- The value a variable starts with has a method: it is made by a class, or is an object literal. -/
def startsWithMethod (r : Resolver) (name : String) (declarator : Visit) : Bool :=
  match initializer? declarator.node with
  | some (.mk (.expr .newCall) _ (callee :: _)) =>
    match r.resolveReference ⟨callee, declarator.node :: declarator.ancestors⟩ with
    | some ⟨.classKind, class_⟩ => hasMethod false name class_.node
    | _ => false
  | some (.mk (.expr .object) _ properties) => properties.any (isMethodProperty name)
  | _ => false

/-- `object.name` is a method of what `object` refers to, seen from a visited opening tag; `this` has
the given methods there. Between the tag and the object no scope opens. -/
def isMethodReference (r : Resolver) (thisMethods : List String) (tag : Visit) : Node → Bool
  | .mk (.expr .member) _ [object, .mk (.name name) _ _] =>
    match object.expr? with
    | some .this => thisMethods.contains name
    | some (.identifier _) =>
      match r.resolveReference ⟨object, tag.node :: tag.ancestors⟩ with
      | some ⟨.classKind, class_⟩ => hasMethod true name class_.node
      | some ⟨.variable, declarator⟩ => startsWithMethod r name declarator
      | _ => false
    | _ => false
  | _ => false

end MethodRefs

/-- Attributes of a visited opening tag whose value is a method. -/
def noMethodRef (r : Resolver) (thisMethods : List String) (v : Visit) (o : Opening) :
    List Diagnostic :=
  let values := o.attributes.filterMap fun a => a.expression?.map Node.unwrapParens
  (values.filter (MethodRefs.isMethodReference r thisMethods v)).map fun value =>
    RuleName.jsxNoMethodRef.warning value.span "Method references are forbidden in JSX attributes"

end Rule

end JsxCheck
