import JsxCheck.Proofs.Syntax.Formed
import JsxCheck.Syntax.Walk

/-!
Searches for the outermost expressions of a kind.

A search goes down a tree and stops at what it looks for. `mem_matching` says that it finds what it
looks for wherever it comes to, and `Reaches.of_mem` that it comes to every node around what it finds.
-/
namespace JsxCheck.Node

variable {source : Source} {p : Node → Bool} {n m x : Node}

/-- The search for the outermost expressions that a predicate holds of comes from the first node to
the second. -/
inductive Reaches (p : Node → Bool) : Node → Node → Prop where
  | here (n : Node) : Reaches p n n
  | down {n c m : Node} : (n.isExpr && p n) = false → c ∈ n.children → Reaches p c m →
      Reaches p n m

theorem Reaches.inside (reached : Reaches p n m) : m ∈ n.preorder := by
  induction reached with
  | here n => exact self_mem_preorder n
  | down _ child _ ih => exact preorder_trans ih (mem_preorder_of_child child)

theorem Reaches.trans (first : Reaches p n m) (second : Reaches p m x) : Reaches p n x := by
  induction first with
  | here => exact second
  | down passed child _ ih => exact .down passed child (ih second)

/-! ### What is found -/

theorem expressionsOfList_eq_flatMap (ns : List Node) :
    expressionsOfList p ns = ns.flatMap (expressions p) := by
  induction ns with
  | nil => rfl
  | cons n ns ih => rw [expressionsOfList, ih, List.flatMap_cons]

theorem matching_eq (n : Node) :
    n.matching p = if n.isExpr && p n then [n] else n.children.flatMap (matching p) := by
  cases n with
  | mk k s cs =>
    unfold matching
    rw [expressions, expressionsOfList_eq_flatMap, ← List.filter_flatMap, children]
    cases (mk k s cs).isExpr with
    | false => rfl
    | true =>
      cases holds : p (mk k s cs) with
      | false => simp [holds]
      | true => simp [holds]

theorem mem_matching : x ∈ n.matching p ↔ Reaches p n x ∧ x.isExpr = true ∧ p x = true := by
  induction n using childrenInduction with
  | step n ih =>
    rw [matching_eq]
    cases stops : (n.isExpr && p n) with
    | true =>
      rw [if_pos rfl, List.mem_singleton]
      constructor
      · rintro rfl
        exact ⟨.here x, Bool.and_eq_true_iff.mp stops⟩
      · rintro ⟨reached, _⟩
        cases reached with
        | here => rfl
        | down passed =>
          rw [stops] at passed
          cases passed
    | false =>
      rw [if_neg Bool.false_ne_true, List.mem_flatMap]
      constructor
      · rintro ⟨c, child, found⟩
        obtain ⟨reached, holds⟩ := (ih c child).mp found
        exact ⟨.down stops child reached, holds⟩
      · rintro ⟨reached, holds⟩
        cases reached with
        | here =>
          rw [Bool.and_eq_true_iff.mpr holds] at stops
          cases stops
        | down _ child reached => exact ⟨_, child, (ih _ child).mpr ⟨reached, holds⟩⟩

/-- What is found is an expression, which is spelled for one node only. -/
theorem isExpr_plain (expression : n.isExpr = true) : n.kind.isSpelling = false ∧
    n.kind ≠ .parameters ∧ n.kind.mayBeEmpty = false ∧ n.kind.mayBeDecorated = false := by
  unfold isExpr expr? at expression
  split at expression
  · rename_i kind
    rw [kind]
    exact ⟨rfl, by simp, rfl, rfl⟩
  · cases expression

/-- What the search finds lies beside each other. -/
theorem matching_pairwise (formed : n.WellFormed source) :
    (n.matching p).Pairwise fun a b => a.extent.Apart b.extent := by
  induction n using childrenInduction with
  | step n ih =>
    rw [matching_eq]
    split
    · exact List.pairwise_singleton _ _
    · rw [List.pairwise_flatMap]
      refine ⟨fun c child => ih c child (formed.child child), ?_⟩
      refine List.pairwise_iff_forall_sublist.mpr ?_
      intro c d order a first b second
      obtain ⟨reachedA, isExprA, _⟩ := mem_matching.mp first
      obtain ⟨reachedB, isExprB, _⟩ := mem_matching.mp second
      rcases formed.root.beside_below order reachedA.inside reachedB.inside
        (isExpr_plain isExprB).2.1 with apart | ⟨_, respelled, rfl⟩
      · exact apart
      · have spelling := respelled.1
        rw [(isExpr_plain isExprA).1] at spelling
        cases spelling

/-! ### What is passed on the way -/

/-- An expression is below one part of a node only. -/
theorem Formed.part_unique {c d : Node} (formed : n.Formed source) (child : c ∈ n.children)
    (child' : d ∈ n.children) (expression : x.isExpr = true)
    (solid : x.span.start < x.span.stop) (first : x ∈ c.preorder) (second : x ∈ d.preorder) :
    c = d := by
  by_contra different
  have plain := isExpr_plain expression
  have alone : n.children.Pairwise fun c d => ¬ (x ∈ c.preorder ∧ x ∈ d.preorder) := by
    refine List.pairwise_iff_forall_sublist.mpr ?_
    rintro c d order ⟨first, second⟩
    rcases formed.beside_below order first second plain.2.1 with apart | ⟨_, respelled, rfl⟩
    · exact (apart.within (span_within_extent x) (span_within_extent x)).ne solid rfl
    · have spelling := respelled.1
      rw [plain.1] at spelling
      cases spelling
  have symmetric : Std.Symm fun c d : Node => ¬ (x ∈ c.preorder ∧ x ∈ d.preorder) :=
    ⟨fun c d apart both => apart both.symm⟩
  exact alone.forall child child' different ⟨first, second⟩

/-- Nodes around one expression are nested. -/
theorem WellFormed.nested_of_common {a b : Node} (formed : n.WellFormed source)
    (expression : x.isExpr = true) (solid : x.span.start < x.span.stop) (first : a ∈ n.preorder)
    (second : b ∈ n.preorder) (inA : x ∈ a.preorder) (inB : x ∈ b.preorder) :
    a ∈ b.preorder ∨ b ∈ a.preorder := by
  induction n using childrenInduction with
  | step n ih =>
    rcases mem_preorder.mp first with rfl | belowA
    · exact Or.inr second
    rcases mem_preorder.mp second with rfl | belowB
    · exact Or.inl first
    obtain ⟨c, child, insideA⟩ := mem_descendants.mp belowA
    obtain ⟨d, child', insideB⟩ := mem_descendants.mp belowB
    have same : d = c := formed.root.part_unique child' child expression solid
      (preorder_trans inB insideB) (preorder_trans inA insideA)
    rw [same] at insideB
    exact ih c child (formed.child child) insideA insideB

/-- A search that finds an expression comes to all nodes around the expression. -/
theorem Reaches.of_mem (formed : n.WellFormed source) (expression : x.isExpr = true)
    (solid : x.span.start < x.span.stop) (found : Reaches p n x) (inside : m ∈ n.preorder)
    (around : x ∈ m.preorder) : Reaches p n m := by
  induction found with
  | here n =>
    rw [preorder_antisymm inside around]
    exact .here n
  | @down n c x passed child found ih =>
    rcases mem_preorder.mp inside with rfl | below
    · exact .here m
    · obtain ⟨d, child', deeper⟩ := mem_descendants.mp below
      have same : d = c := formed.root.part_unique child' child expression solid
        (preorder_trans around deeper) found.inside
      rw [same] at deeper
      exact .down passed child (ih (formed.child child) expression solid deeper around)

/-! ### Values of properties -/

theorem propertyValuesOfList_eq_flatMap (ns : List Node) :
    propertyValuesOfList ns = ns.flatMap propertyValues := by
  induction ns with
  | nil => rfl
  | cons n ns ih => rw [propertyValuesOfList, ih, List.flatMap_cons]

/-- The values of properties are those of one property, or those of all parts. -/
theorem propertyValues_cases (n : Node) :
    (n.kind = .property ⟨false, false, false⟩ ∧ ∃ value ∈ n.children, n.propertyValues = [value]) ∨
      n.propertyValues = n.children.flatMap propertyValues := by
  fun_cases propertyValues n with
  | case1 s key value => exact Or.inl ⟨rfl, value, by simp [children], rfl⟩
  | case2 k s cs _ => exact Or.inr (propertyValuesOfList_eq_flatMap cs)

theorem propertyValues_mem {value : Node} (found : value ∈ n.propertyValues) :
    value ∈ n.preorder := by
  induction n using childrenInduction with
  | step n ih =>
    rcases propertyValues_cases n with ⟨_, only, child, one⟩ | all
    · rw [one, List.mem_singleton] at found
      rw [found]
      exact mem_preorder_of_child child
    · rw [all, List.mem_flatMap] at found
      obtain ⟨c, child, found⟩ := found
      exact preorder_trans (ih c child found) (mem_preorder_of_child child)

theorem propertyValues_pairwise (formed : n.WellFormed source) :
    n.propertyValues.Pairwise fun a b => a.extent.Apart b.extent := by
  induction n using childrenInduction with
  | step n ih =>
    rcases propertyValues_cases n with ⟨_, only, child, one⟩ | all
    · rw [one]
      exact List.pairwise_singleton _ _
    · rw [all, List.pairwise_flatMap]
      refine ⟨fun c child => ih c child (formed.child child), formed.root.beside.imp ?_⟩
      intro c d related a first b second
      have inC := extent_within_extent (propertyValues_mem first)
      rcases related with apart | ⟨_, respelled⟩ | ⟨_, _, kind, behind⟩
      · exact apart.within inC (extent_within_extent (propertyValues_mem second))
      · -- A name has no properties.
        obtain ⟨spelling, leaf, _⟩ := respelled
        rcases propertyValues_cases c with ⟨kind, _⟩ | all
        · rw [kind] at spelling
          cases spelling
        · rw [all, List.isEmpty_iff.mp leaf] at first
          cases first
      · rcases propertyValues_cases d with ⟨other, _⟩ | all
        · rw [kind] at other
          cases other
        · rw [all, List.mem_flatMap] at second
          obtain ⟨x, child, found⟩ := second
          exact (behind x child).within inC (extent_within_extent (propertyValues_mem found))

end JsxCheck.Node
