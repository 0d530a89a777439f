import JsxCheck.Syntax.Node

/-!
Walks over the expressions below a node.

A walk meets expressions in pre-order and may be told not to look below some of them.
-/
namespace JsxCheck.Node

mutual

/-- The expressions of a tree in pre-order. Those below an expression that `prune` holds of are
left out. -/
def expressions (prune : Node → Bool) : Node → List Node
  | mk k s cs =>
    if (mk k s cs).isExpr then
      mk k s cs :: if prune (mk k s cs) then [] else expressionsOfList prune cs
    else expressionsOfList prune cs

def expressionsOfList (prune : Node → Bool) : List Node → List Node
  | [] => []
  | n :: ns => n.expressions prune ++ expressionsOfList prune ns

end

/-- The outermost expressions of a tree that satisfy a predicate: below a match nothing is
searched. -/
def matching (p : Node → Bool) (root : Node) : List Node := (root.expressions p).filter p

/-- An expression without the parentheses around it. -/
def unwrapParens : Node → Node
  | mk (.expr .parenthesized) _ [inner] => unwrapParens inner
  | n => n

/-- An arrow function or a function expression. -/
def isFunctionLike (n : Node) : Bool :=
  match n.expr? with
  | some (.arrow _) | some .function => true
  | _ => false

mutual

/-- The values of `key: value` properties in a tree, in source order. A value found is not searched
further; shorthand properties, methods and accessors are searched for properties inside them. -/
def propertyValues : Node → List Node
  | mk (.property ⟨false, false, false⟩) _ [_, value] => [value]
  | mk _ _ cs => propertyValuesOfList cs

def propertyValuesOfList : List Node → List Node
  | [] => []
  | n :: ns => n.propertyValues ++ propertyValuesOfList ns

end

end JsxCheck.Node
