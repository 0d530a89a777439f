import JsxCheck.Syntax.ClassShape
import JsxCheck.Syntax.Visit

/-!
Scopes: the parts of a program in which names are bound.

A scope belongs to a node and is open for some of its children: the name of a declared function is
bound around the function, and its parameters inside it.
-/
namespace JsxCheck

/-- A scope, by the node that opens it. No two nodes of one kind that open scopes have one span. -/
structure Scope where
  kind : Kind
  span : Span
  deriving DecidableEq, Inhabited

namespace Scope

def ofNode (n : Node) : Scope := ⟨n.kind, n.span⟩

/-- Variables declared by `var` belong to the nearest such scope. -/
def holdsVariables (s : Scope) : Bool :=
  match s.kind with
  | .program | .functionDeclaration | .staticBlock | .namespaceBlock => true
  | .expr .function | .exprPart .function | .expr (.arrow _) => true
  | _ => false

/-- The scope of a whole program. -/
def isOutermost (s : Scope) : Bool := s.kind == .program

end Scope

namespace Node

def isBinding (n : Node) : Bool :=
  match n.kind with
  | .binding _ => true
  | _ => false

def isSwitchCase (n : Node) : Bool := n.kind == .switchCase

/-- In `type extends bound ? yes : no` the bound can bind names, which `yes` may use. -/
def isBoundOrYes (conditional child : Node) : Bool :=
  match conditional.children with
  | [_, bound, yes, _] => child.span == bound.span || child.span == yes.span
  | _ => false

/-- The node opens a scope for one of its children. -/
def opensScopeFor (parent child : Node) : Bool :=
  match parent.kind with
  | .program | .block | .forStatement | .forInStatement | .forOfStatement | .catchClause => true
  | .expr .function | .exprPart .function | .expr (.arrow _) => true
  | .staticBlock | .namespaceBlock | .enumBody => true
  | .mappedType | .functionType | .constructorType => true
  | .methodSignature | .callSignature | .constructSignature => true
  | .functionDeclaration | .interfaceDeclaration | .typeAlias => !child.isBinding
  | .classDeclaration => !child.isBinding && !child.isDecorator
  | .expr .classExpr => !child.isDecorator
  | .switchStatement => child.isSwitchCase
  | .conditionalType => parent.isBoundOrYes child
  | _ => false

end Node

/-- The scopes around a node, innermost first, given its ancestors. -/
def scopesAround (child : Node) : (ancestors : List Node) → List Scope
  | [] => []
  | parent :: above =>
    if parent.opensScopeFor child then .ofNode parent :: scopesAround parent above
    else scopesAround parent above

/-- The scopes around a visited node, innermost first. -/
def Visit.scopes (v : Visit) : List Scope := scopesAround v.node v.ancestors

end JsxCheck
