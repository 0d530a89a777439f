import JsxCheck.Syntax.Node

/-!
Visits: a node of a tree together with the nodes that enclose it.

A tree is visited in pre-order, parents before children and children from left to right.
-/
namespace JsxCheck

/-- A node and its ancestors, innermost first. -/
structure Visit where
  node : Node
  ancestors : List Node
  deriving Inhabited

namespace Visit

def parent? (v : Visit) : Option Node := v.ancestors.head?

def children (v : Visit) : List Visit :=
  v.node.children.map fun child => ⟨child, v.node :: v.ancestors⟩

end Visit

namespace Node

mutual

/-- The visits of a tree that stands below the given ancestors. -/
def visitsBelow (ancestors : List Node) : Node → List Visit
  | mk k s cs => ⟨mk k s cs, ancestors⟩ :: visitsOfList (mk k s cs :: ancestors) cs

/-- The visits of trees that stand side by side. -/
def visitsOfList (ancestors : List Node) : List Node → List Visit
  | [] => []
  | n :: ns => n.visitsBelow ancestors ++ visitsOfList ancestors ns

end

/-- Every node of a tree with its ancestors, in pre-order. -/
def visits (root : Node) : List Visit := root.visitsBelow []

/-- Every node of a tree, in pre-order. -/
def preorder (root : Node) : List Node := root.visits.map Visit.node

end Node

end JsxCheck
