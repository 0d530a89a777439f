import JsxCheck.Rule.Layout.Wrapping
import JsxCheck.Syntax.Visit

/-!
The walk over a program that looks at every node once.

The walk keeps the nodes around the current one and two flags, from which an element learns where it
stands: a child of an element is announced just before it is visited, and the element takes the
announcement back. What a look at a node finds is collected in the order of the visits.
-/
namespace JsxCheck

/-- What the walk carries from node to node. -/
structure Walk (α : Type) where
  /-- The nodes around the one visited next, innermost first. -/
  ancestors : List Node := []
  /-- The element visited next is a child of another element. -/
  atChild : Bool := false
  /-- The children walked over belong to an element, and not to a fragment. -/
  inElement : Bool := false
  /-- What was found so far. -/
  found : Array α := #[]

namespace Walk

variable {α : Type}

/-- Where the element visited next stands. -/
def position (w : Walk α) : Position :=
  if w.atChild then .child
  else
    match w.ancestors.head? with
    | some parent =>
      match parent.form? with
      | some .parenthesized => .parenthesized parent.span
      | _ => .other
    | none => .other

/-- Whether the children of a node belong to an element, when it is one or a fragment. -/
def holder? (n : Node) : Option Bool :=
  match n.form? with
  | some .jsxElement => some true
  | some .jsxFragment => some false
  | _ => none

/-- The walk just inside a node. An element takes the announcement for itself. -/
def enter (look : Visit → Position → List α) (n : Node) (w : Walk α) : Walk α where
  ancestors := n :: w.ancestors
  atChild := w.atChild && !n.isJsxElement
  inElement := (holder? n).getD w.inElement
  found := w.found ++ look ⟨n, w.ancestors⟩ w.position

/-- The walk behind a node, given how it stood in front of it. -/
def leave (n : Node) (before : Walk α) (w : Walk α) : Walk α :=
  { w with
    ancestors := w.ancestors.tail
    inElement := if (holder? n).isSome then before.inElement else w.inElement }

/-- The walk in front of a child of an element or a fragment. -/
def announce (n : Node) (w : Walk α) : Walk α :=
  { w with atChild := w.inElement && n.isJsxElement }

mutual

def visit (look : Visit → Position → List α) : Node → Walk α → Walk α
  | .mk k s cs, w =>
    leave (.mk k s cs) w
      (visitAll look (holder? (.mk k s cs)).isSome cs (enter look (.mk k s cs) w))

/-- Visits the parts of a node, each of which other than a tag is a child when the node holds
children. -/
def visitAll (look : Visit → Position → List α) (holds : Bool) : List Node → Walk α → Walk α
  | [], w => w
  | n :: ns, w =>
    if holds && !n.isTag then
      visitAll look holds ns { visit look n (announce n w) with atChild := false }
    else visitAll look holds ns (visit look n w)

end

/-- Everything found in a program. -/
def findings (look : Visit → Position → List α) (root : Node) : List α :=
  (visit look root {}).found.toList

end Walk

end JsxCheck
