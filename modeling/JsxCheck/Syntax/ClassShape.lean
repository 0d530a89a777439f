import JsxCheck.Syntax.Node
import JsxCheck.Source.Text

/-!
Classes: what they extend and which methods they declare.
-/
namespace JsxCheck

namespace Node

/-- The name a key spells out: `a` and `"a"`, but no computed name. -/
def keyName? : Node → Option String
  | mk (.name text) _ _ => some text
  | mk (.expr (.string text)) _ _ => some text
  | _ => none

def isClass (n : Node) : Bool :=
  match n.kind with
  | .classDeclaration | .expr .classExpr | .exprPart .classExpr => true
  | _ => false

def isDecorator (n : Node) : Bool :=
  match n.kind with
  | .decorator => true
  | _ => false

def classMembers (n : Node) : List Node :=
  n.children.flatMap fun
    | mk .classBody _ members => members
    | _ => []

/-- The name of a plain method; constructors and accessors are none. -/
def methodName? : Node → Option String
  | mk (.method .method _) _ parts => do
    let key ← parts.find? (!·.isDecorator)
    key.keyName?
  | _ => none

def methodNames (n : Node) : List String := n.classMembers.filterMap methodName?

/-- The value a class extends, and the type arguments it is given. -/
def heritage? (n : Node) : Option (Node × List Node) :=
  n.children.findSome? fun
    | mk .heritage _ (parent :: arguments) =>
      some (parent, arguments.flatMap children)
    | _ => none

/-- Text of what a class extends, without type arguments. -/
def superText? (source : Source) (n : Node) : Option String := do
  let (parent, _) ← n.heritage?
  source.slice? parent.span.start parent.span.stop

end Node

end JsxCheck
