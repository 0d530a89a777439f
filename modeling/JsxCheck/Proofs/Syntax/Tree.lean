import JsxCheck.Syntax.Visit
import Mathlib.Data.List.Flatten
import Mathlib.Data.List.Nodup

/-!
Trees as lists of nodes.

`preorder` lists a tree with its root in front and `descendants` lists it without. `visits_pairwise`
tells how two visits of one walk are related: the later node is below the earlier one, or the two
lie below different children of a node.
-/
namespace JsxCheck

namespace Node

/-- What holds of a node when it holds of its children holds of every node. -/
theorem childrenInduction {motive : Node → Prop}
    (step : ∀ n : Node, (∀ c ∈ n.children, motive c) → motive n) : ∀ n, motive n
  | mk k s cs => step (mk k s cs) fun c _member => childrenInduction step c
termination_by n => sizeOf n
decreasing_by
  have smaller := List.sizeOf_lt_of_mem (show c ∈ cs from _member)
  simp only [mk.sizeOf_spec]
  omega

/-- The nodes of a tree other than its root, in pre-order. -/
def descendants (n : Node) : List Node := n.children.flatMap preorder

theorem visitsOfList_eq_flatMap (ancestors : List Node) (ns : List Node) :
    visitsOfList ancestors ns = ns.flatMap (visitsBelow ancestors) := by
  induction ns with
  | nil => rfl
  | cons n ns ih => rw [visitsOfList, ih, List.flatMap_cons]

theorem visitsBelow_eq (ancestors : List Node) (n : Node) :
    n.visitsBelow ancestors =
      ⟨n, ancestors⟩ :: n.children.flatMap (visitsBelow (n :: ancestors)) := by
  cases n with
  | mk k s cs => rw [visitsBelow, visitsOfList_eq_flatMap, children]

theorem map_node_visitsBelow (ancestors : List Node) (n : Node) :
    (n.visitsBelow ancestors).map Visit.node = n.preorder := by
  induction n using childrenInduction generalizing ancestors with
  | step n ih =>
    rw [preorder, visits, visitsBelow_eq, visitsBelow_eq, List.map_cons, List.map_cons,
      List.map_flatMap, List.map_flatMap]
    congr 1
    apply List.flatMap_congr
    intro c member
    rw [ih c member, ih c member]

theorem preorder_eq (n : Node) : n.preorder = n :: n.descendants := by
  rw [preorder, visits, visitsBelow_eq, List.map_cons, List.map_flatMap, descendants]
  congr 1
  exact List.flatMap_congr fun c _ => map_node_visitsBelow _ c

theorem mem_preorder {m n : Node} : m ∈ n.preorder ↔ m = n ∨ m ∈ n.descendants := by
  rw [preorder_eq, List.mem_cons]

theorem mem_descendants {m n : Node} : m ∈ n.descendants ↔ ∃ c ∈ n.children, m ∈ c.preorder :=
  List.mem_flatMap

theorem self_mem_preorder (n : Node) : n ∈ n.preorder := mem_preorder.mpr (Or.inl rfl)

theorem mem_descendants_of_child {c n : Node} (child : c ∈ n.children) : c ∈ n.descendants :=
  mem_descendants.mpr ⟨c, child, c.self_mem_preorder⟩

theorem mem_preorder_of_child {c n : Node} (child : c ∈ n.children) : c ∈ n.preorder :=
  mem_preorder.mpr (Or.inr (mem_descendants_of_child child))

theorem preorder_trans {a b n : Node} (inner : a ∈ b.preorder) (outer : b ∈ n.preorder) :
    a ∈ n.preorder := by
  induction n using childrenInduction with
  | step n ih =>
    rcases mem_preorder.mp outer with rfl | under
    · exact inner
    · obtain ⟨c, child, inside⟩ := mem_descendants.mp under
      exact mem_preorder.mpr (Or.inr (mem_descendants.mpr ⟨c, child, ih c child inside⟩))

/-! ### Two visits of one walk -/

/-- Two nodes lie below children of one node, the first below an earlier child. -/
def Branched (root a b : Node) : Prop :=
  ∃ n ∈ root.preorder, ∃ c d, [c, d].Sublist n.children ∧ a ∈ c.preorder ∧ b ∈ d.preorder

theorem Branched.lift {root n a b : Node} (branched : Branched n a b) (inside : n ∈ root.preorder) :
    Branched root a b := by
  obtain ⟨m, member, c, d, order, first, second⟩ := branched
  exact ⟨m, preorder_trans member inside, c, d, order, first, second⟩

theorem visitsBelow_mem {ancestors : List Node} {n : Node} {v : Visit}
    (member : v ∈ n.visitsBelow ancestors) : v.node ∈ n.preorder := by
  rw [← map_node_visitsBelow ancestors n]
  exact List.mem_map_of_mem member

theorem visits_pairwise (ancestors : List Node) (n : Node) :
    (n.visitsBelow ancestors).Pairwise fun v w =>
      w.node ∈ v.node.descendants ∨ Branched n v.node w.node := by
  induction n using childrenInduction generalizing ancestors with
  | step n ih =>
    rw [visitsBelow_eq, List.pairwise_cons]
    refine ⟨?_, ?_⟩
    · intro w member
      obtain ⟨c, child, inside⟩ := List.mem_flatMap.mp member
      exact Or.inl (mem_descendants.mpr ⟨c, child, visitsBelow_mem inside⟩)
    · rw [List.pairwise_flatMap]
      refine ⟨?_, ?_⟩
      · intro c child
        refine (ih c child (n :: ancestors)).imp ?_
        intro v w related
        exact related.imp id fun branched => branched.lift (mem_preorder_of_child child)
      · refine List.pairwise_iff_forall_sublist.mpr ?_
        intro c d order v first w second
        exact Or.inr ⟨n, n.self_mem_preorder, c, d, order, visitsBelow_mem first,
          visitsBelow_mem second⟩

theorem preorder_sublist {n root : Node} (inside : n ∈ root.preorder) :
    n.preorder.Sublist root.preorder := by
  induction root using childrenInduction with
  | step root ih =>
    rcases mem_preorder.mp inside with rfl | below
    · exact List.Sublist.refl _
    · obtain ⟨c, child, deeper⟩ := mem_descendants.mp below
      have part := (List.singleton_sublist.mpr child).flatMap preorder
      rw [List.flatMap_singleton] at part
      rw [preorder_eq root]
      exact ((ih c child deeper).trans part).cons _

theorem length_preorder_lt {m n : Node} (below : m ∈ n.descendants) :
    m.preorder.length < n.preorder.length := by
  obtain ⟨c, child, inside⟩ := mem_descendants.mp below
  have part := (List.singleton_sublist.mpr child).flatMap preorder
  rw [List.flatMap_singleton] at part
  rw [preorder_eq n, List.length_cons]
  exact Nat.lt_succ_of_le ((preorder_sublist inside).trans part).length_le

theorem preorder_antisymm {m n : Node} (inside : m ∈ n.preorder) (around : n ∈ m.preorder) :
    m = n := by
  rcases mem_preorder.mp inside with same | below
  · exact same
  · exact absurd (preorder_sublist around).length_le (Nat.not_le.mpr (length_preorder_lt below))

/-- Nodes below two parts of a node are visited in the order of the parts. -/
theorem Branched.sublist {root a b : Node} (branched : Branched root a b) :
    [a, b].Sublist root.preorder := by
  obtain ⟨n, inside, c, d, order, first, second⟩ := branched
  refine List.Sublist.trans ?_ (preorder_sublist inside)
  rw [preorder_eq n]
  refine List.Sublist.cons _ (List.Sublist.trans ?_ (order.flatMap preorder))
  rw [List.flatMap_cons, List.flatMap_singleton]
  exact (List.singleton_sublist.mpr first).append (List.singleton_sublist.mpr second)

end Node

/-! ### Ancestors -/

namespace Visit

theorem mem_children_of_parent? {root parent : Node} {v : Visit} (member : v ∈ root.visits)
    (above : v.parent? = some parent) : v.node ∈ parent.children := by
  have general : ∀ (n : Node) (ancestors : List Node), v ∈ n.visitsBelow ancestors →
      v = ⟨n, ancestors⟩ ∨ v.node ∈ parent.children := by
    intro n
    induction n using Node.childrenInduction with
    | step n ih =>
      intro ancestors member
      rw [Node.visitsBelow_eq, List.mem_cons] at member
      rcases member with here | inside
      · exact Or.inl here
      · obtain ⟨c, child, inside⟩ := List.mem_flatMap.mp inside
        rcases ih c child _ inside with rfl | done
        · obtain rfl : n = parent := by simpa [parent?] using above
          exact Or.inr child
        · exact Or.inr done
  rcases general root [] member with rfl | done
  · simp [parent?] at above
  · exact done

theorem parent?_visited {root parent : Node} {v : Visit} (member : v ∈ root.visits)
    (above : v.parent? = some parent) :
    ∃ rest, v.ancestors = parent :: rest ∧ (⟨parent, rest⟩ : Visit) ∈ root.visits := by
  have general : ∀ (n : Node) (ancestors : List Node), v ∈ n.visitsBelow ancestors →
      v = ⟨n, ancestors⟩ ∨
        ∃ rest, v.ancestors = parent :: rest ∧ (⟨parent, rest⟩ : Visit) ∈ n.visitsBelow ancestors := by
    intro n
    induction n using Node.childrenInduction with
    | step n ih =>
      intro ancestors member
      rw [Node.visitsBelow_eq, List.mem_cons] at member
      rcases member with here | inside
      · exact Or.inl here
      · obtain ⟨c, child, inside⟩ := List.mem_flatMap.mp inside
        refine Or.inr ?_
        rw [Node.visitsBelow_eq]
        rcases ih c child _ inside with rfl | ⟨rest, shape, found⟩
        · obtain rfl : n = parent := by simpa [parent?] using above
          exact ⟨ancestors, rfl, List.mem_cons_self⟩
        · exact ⟨rest, shape, List.mem_cons_of_mem _ (List.mem_flatMap.mpr ⟨c, child, found⟩)⟩
  rcases general root [] member with rfl | done
  · simp [parent?] at above
  · exact done

theorem child_visited {root : Node} {v w : Visit} (member : v ∈ root.visits)
    (child : w ∈ v.children) : w ∈ root.visits := by
  have general : ∀ (n : Node) (ancestors : List Node), v ∈ n.visitsBelow ancestors →
      w ∈ n.visitsBelow ancestors := by
    intro n
    induction n using Node.childrenInduction with
    | step n ih =>
      intro ancestors member
      rw [Node.visitsBelow_eq, List.mem_cons] at member ⊢
      right
      rcases member with rfl | inside
      · obtain ⟨c, isChild, rfl⟩ := List.mem_map.mp child
        refine List.mem_flatMap.mpr ⟨c, isChild, ?_⟩
        rw [Node.visitsBelow_eq]
        exact List.mem_cons_self
      · obtain ⟨c, isChild, inside⟩ := List.mem_flatMap.mp inside
        exact List.mem_flatMap.mpr ⟨c, isChild, ih c isChild _ inside⟩
  exact general root [] member

theorem node_mem_preorder {root : Node} {v : Visit} (member : v ∈ root.visits) :
    v.node ∈ root.preorder := List.mem_map_of_mem member

theorem ancestor_mem_preorder {root a : Node} {v : Visit} (member : v ∈ root.visits)
    (around : a ∈ v.ancestors) : a ∈ root.preorder := by
  obtain ⟨n, ancestors⟩ := v
  induction ancestors generalizing n with
  | nil => cases around
  | cons parent above ih =>
    obtain ⟨rest, shape, visited⟩ := parent?_visited member rfl
    obtain ⟨_, rfl⟩ := List.cons.inj shape
    rcases List.mem_cons.mp around with rfl | further
    · exact node_mem_preorder visited
    · exact ih parent visited further

end Visit

end JsxCheck
