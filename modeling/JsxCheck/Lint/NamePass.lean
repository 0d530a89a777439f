import JsxCheck.Lint.Pass
import JsxCheck.Resolve.Resolver
import JsxCheck.Rule.Components.MethodRefs
import JsxCheck.Rule.Components.SimpleProps

/-!
The pass of the rules that need to know what names refer to.

The pass walks over a program and keeps the names of the methods of each class that it is inside of,
which tell what `this` has. A type of properties that several components share is reported once.
-/
namespace JsxCheck

/-- What a rule says about a node when names can be resolved and `this` has the given methods. -/
def RuleName.checkResolved (r : RuleName) (resolver : Resolver) (doc : Document)
    (thisMethods : List String) (v : Visit) : List Diagnostic :=
  match r with
  | .jsxNoMethodRef => v.onOpening (Rule.noMethodRef resolver thisMethods v)
  | .reactPureComponentsHaveSimpleAttributes => Rule.simpleAttributes resolver doc v
  | _ => []

def RuleName.resolving : List RuleName :=
  [.jsxNoMethodRef, .reactPureComponentsHaveSimpleAttributes]

/-- What the pass has reported so far. -/
structure Reporter where
  /-- The rule and the span of everything reported. -/
  reported : List (String × Span) := []
  /-- What was reported, in order. -/
  diagnostics : Array Diagnostic := #[]
  deriving Inhabited

namespace Reporter

/-- Reports what a rule says, unless the rule has said something of the span before. -/
def report (r : Reporter) (d : Diagnostic) : Reporter :=
  if r.reported.contains (d.rule, d.span) then r
  else ⟨(d.rule, d.span) :: r.reported, r.diagnostics.push d⟩

/-- Reports what is said about one node. -/
def reportAll (r : Reporter) (said : List Diagnostic) : Reporter := said.foldl report r

end Reporter

/-- What the pass carries from node to node. -/
structure NameWalk where
  /-- The nodes around the one visited next, innermost first. -/
  ancestors : List Node := []
  /-- Names of the methods of each class around it, innermost first. -/
  classMethods : List (List String) := []
  reporter : Reporter := {}
  deriving Inhabited

namespace NameWalk

/-- Names of the methods of the class that the walk entered last and has not left. -/
def thisMethods (w : NameWalk) : List String := w.classMethods.head?.getD []

/-- The walk just inside a node. What is said about a class is said outside of it. -/
def enter (say : List String → Visit → List Diagnostic) (n : Node) (w : NameWalk) : NameWalk where
  ancestors := n :: w.ancestors
  classMethods := if n.isClass then n.methodNames :: w.classMethods else w.classMethods
  reporter := w.reporter.reportAll (say w.thisMethods ⟨n, w.ancestors⟩)

/-- The walk behind a node. -/
def leave (n : Node) (w : NameWalk) : NameWalk :=
  { w with
    ancestors := w.ancestors.tail
    classMethods := if n.isClass then w.classMethods.tail else w.classMethods }

mutual

def visit (say : List String → Visit → List Diagnostic) : Node → NameWalk → NameWalk
  | .mk k s cs, w => leave (.mk k s cs) (visitAll say cs (enter say (.mk k s cs) w))

def visitAll (say : List String → Visit → List Diagnostic) : List Node → NameWalk → NameWalk
  | [], w => w
  | n :: ns, w => visitAll say ns (visit say n w)

end

end NameWalk

namespace Config

/-- What the rules that resolve names say about one node, when `this` has the given methods. -/
def checkResolvedAt (c : Config) (resolver : Resolver) (doc : Document) (thisMethods : List String)
    (v : Visit) : List Diagnostic :=
  (RuleName.resolving.filter c.isEnabled).flatMap fun r =>
    r.checkResolved resolver doc thisMethods v

/-- The pass over a program: what is said about each node is reported before the next is visited. -/
def checkResolved (c : Config) (resolver : Resolver) (doc : Document) (root : Node) : Report :=
  ⟨(NameWalk.visit (c.checkResolvedAt resolver doc) root {}).reporter.diagnostics.toList⟩

end Config

end JsxCheck
