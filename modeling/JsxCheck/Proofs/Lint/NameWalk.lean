import JsxCheck.Lint.NamePass
import JsxCheck.Proofs.Syntax.Tree

/-!
What the pass with names knows of the classes around a node.

The walk has a stack: it puts the methods of a class on it when it enters the class and takes them off
when it leaves. `visit_eq` says that a visited tree leaves the stack as it was, and that at every node
of the tree the methods on top are those of the innermost class around the node.
-/
namespace JsxCheck

/-- Names of the methods of the innermost class around a visited node. -/
def Visit.classMethods (v : Visit) : List String :=
  match v.ancestors.find? Node.isClass with
  | some class_ => class_.methodNames
  | none => []

/-- What the rules that resolve names say about one node of a program. -/
def Config.checkResolvedVisit (c : Config) (resolver : Resolver) (doc : Document) (v : Visit) :
    List Diagnostic :=
  c.checkResolvedAt resolver doc v.classMethods v

namespace NameWalk

variable {say : List String → Visit → List Diagnostic} {w : NameWalk}

/-- The stack holds the methods of the classes around, and of no others. -/
def Tracks (w : NameWalk) : Prop :=
  w.classMethods = (w.ancestors.filter Node.isClass).map Node.methodNames

theorem Tracks.thisMethods_eq (tracks : w.Tracks) (n : Node) :
    w.thisMethods = Visit.classMethods ⟨n, w.ancestors⟩ := by
  unfold NameWalk.thisMethods Visit.classMethods
  rw [tracks, List.head?_map, List.head?_filter]
  cases w.ancestors.find? Node.isClass <;> rfl

theorem Tracks.enter (tracks : w.Tracks) (n : Node) : (enter say n w).Tracks := by
  unfold Tracks at tracks ⊢
  simp only [NameWalk.enter, tracks]
  cases isClass : n.isClass <;> simp [isClass]

theorem leave_enter (n : Node) (w : NameWalk) (reporter : Reporter) :
    leave n { enter say n w with reporter } = { w with reporter } := by
  unfold leave enter
  cases n.isClass <;> simp

/-- The reporter after visits, at each of which `this` has the methods of the class around. -/
def reportVisits (say : List String → Visit → List Diagnostic) (r : Reporter) (visits : List Visit) :
    Reporter :=
  visits.foldl (fun r v => r.reportAll (say v.classMethods v)) r

theorem visitAll_eq (ns : List Node)
    (each : ∀ n ∈ ns, ∀ w : NameWalk, w.Tracks → visit say n w =
      { w with reporter := reportVisits say w.reporter (n.visitsBelow w.ancestors) })
    (tracks : w.Tracks) :
    visitAll say ns w =
      { w with
        reporter := reportVisits say w.reporter (ns.flatMap (Node.visitsBelow w.ancestors)) } := by
  induction ns generalizing w with
  | nil => simp [visitAll, reportVisits]
  | cons n ns ih =>
    rw [visitAll, each n List.mem_cons_self w tracks,
      ih (fun m member => each m (List.mem_cons_of_mem _ member)) (by exact tracks)]
    simp only [reportVisits, List.flatMap_cons, List.foldl_append]

/-- A visited tree leaves the stack and the ancestors as they were. What is said of each of its nodes is
said with the methods of the innermost class around the node. -/
theorem visit_eq (n : Node) : ∀ w : NameWalk, w.Tracks → visit say n w =
    { w with reporter := reportVisits say w.reporter (n.visitsBelow w.ancestors) } := by
  induction n using Node.childrenInduction with
  | step n ih =>
    intro w tracks
    have opened : visit say n w = leave n (visitAll say n.children (enter say n w)) := by
      cases n
      rw [visit, Node.children]
    rw [opened, visitAll_eq n.children ih (tracks.enter n), leave_enter, Node.visitsBelow_eq]
    simp only [reportVisits, List.foldl_cons, enter, ← tracks.thisMethods_eq n]

end NameWalk

/-- The pass reports what is said of one node after the other. -/
theorem Config.checkResolved_eq_foldl (c : Config) (resolver : Resolver) (doc : Document)
    (root : Node) :
    c.checkResolved resolver doc root = ⟨(root.visits.foldl
      (fun (r : Reporter) v => r.reportAll (c.checkResolvedVisit resolver doc v))
      {}).diagnostics.toList⟩ := by
  rw [checkResolved, NameWalk.visit_eq root {} rfl]
  rfl

end JsxCheck
