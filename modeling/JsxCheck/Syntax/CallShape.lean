import JsxCheck.Syntax.Node

/-!
Calls: what is called, and with which arguments.
-/
namespace JsxCheck.Node

def callee? (call : Node) : Option Node := call.children.head?

def isTypeArguments (n : Node) : Bool :=
  match n.kind with
  | .typeArguments => true
  | _ => false

def arguments (call : Node) : List Node := call.children.tail.filter (!·.isTypeArguments)

end JsxCheck.Node
