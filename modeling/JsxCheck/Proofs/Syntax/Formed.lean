import JsxCheck.Grammar.Program
import JsxCheck.Proofs.Syntax.Tree
import JsxCheck.Rule.Components.Identifiers
import JsxCheck.Syntax.Element
import Mathlib.Data.List.Pairwise

/-!
What parsing promises about the spans in a tree.

The parts of a node lie inside it and beside each other. There are three exceptions: decorators in
front of an exported class stand outside the class, a shorthand such as `{ a }` spells one name that
stands twice in the tree, and the span of the parameters of a function covers the parameter `this`,
which stands beside them in the tree. Nodes that begin or end with a token of their own leave room
for it.

`visits_apart` is the main statement: of two visits the later node is below the earlier one, or their
spans do not meet, or the first is a name that the second spells as well.
-/
namespace JsxCheck

namespace Span

/-- Every byte of the first span belongs to the second. -/
def Within (a b : Span) : Prop := b.start ≤ a.start ∧ a.stop ≤ b.stop

/-- One span ends before the other starts. -/
def Apart (a b : Span) : Prop := a.stop ≤ b.start ∨ b.stop ≤ a.start

instance (a b : Span) : Decidable (a.Within b) :=
  inferInstanceAs (Decidable (b.start ≤ a.start ∧ a.stop ≤ b.stop))

instance (a b : Span) : Decidable (a.Apart b) :=
  inferInstanceAs (Decidable (a.stop ≤ b.start ∨ b.stop ≤ a.start))

/-- The least span around two spans. -/
def hull (a b : Span) : Span := ⟨min a.start b.start, max a.stop b.stop⟩

theorem Within.refl (a : Span) : a.Within a := ⟨Nat.le_refl _, Nat.le_refl _⟩

theorem Within.trans {a b c : Span} (inner : a.Within b) (outer : b.Within c) : a.Within c :=
  ⟨Nat.le_trans outer.1 inner.1, Nat.le_trans inner.2 outer.2⟩

theorem Apart.symm {a b : Span} (apart : a.Apart b) : b.Apart a := Or.symm apart

theorem Apart.within {a b c d : Span} (apart : a.Apart b) (first : c.Within a)
    (second : d.Within b) : c.Apart d := by
  rcases apart with before | after
  · exact Or.inl (Nat.le_trans first.2 (Nat.le_trans before second.1))
  · exact Or.inr (Nat.le_trans second.2 (Nat.le_trans after first.1))

theorem Apart.ne {a b : Span} (apart : a.Apart b) (nonempty : a.start < a.stop) : a ≠ b := by
  rintro rfl
  rcases apart with before | after <;> omega

theorem within_hull_left (a b : Span) : a.Within (a.hull b) :=
  ⟨Nat.min_le_left _ _, Nat.le_max_left _ _⟩

theorem within_hull_right (a b : Span) : b.Within (a.hull b) :=
  ⟨Nat.min_le_right _ _, Nat.le_max_right _ _⟩

theorem hull_within {a b c : Span} (first : a.Within c) (second : b.Within c) :
    (a.hull b).Within c :=
  ⟨Nat.le_min.mpr ⟨first.1, second.1⟩, Nat.max_le.mpr ⟨first.2, second.2⟩⟩

end Span

namespace Kind

/-- What may cover no bytes: an empty program, a hole in an array, the inside of `{}`, a part of a
template between two of its values. -/
def mayBeEmpty : Kind → Bool
  | program | jsxEmpty | elision | templateChunk _ => true
  | _ => false

/-- What may have decorators in front of its span: an exported class. -/
def mayBeDecorated : Kind → Bool
  | classDeclaration | exportNamed | exportDefault => true
  | _ => false

/-- What may hold statements, and so an exported class. -/
def mayHoldStatements : Kind → Bool
  | program | functionBody | block | staticBlock | switchCase | namespaceBlock | globalBlock
  | exportNamed | exportDefault | ifStatement | labeledStatement => true
  | _ => false

/-- What may spell one name for two of its parts. -/
def mayRespell : Kind → Bool
  | property form => form.isShorthand
  | patternProperty | importSpecifier | exportSpecifier => true
  | _ => false

/-- What may declare a parameter `this`. -/
def mayTakeThis : Kind → Bool
  | functionDeclaration | expr .function | exprPart .function | expr (.arrow _) | methodSignature
  | callSignature | constructSignature | functionType | constructorType => true
  | _ => false

/-- What may be spelled once for two nodes. -/
def isSpelling : Kind → Bool
  | name _ | exprPart (.identifier _) | exprPart (.string _) => true
  | _ => false

/-- A token of its own stands in front of all parts. -/
def opens : Kind → Bool
  | jsxOpening | jsxClosing | jsxContainer | jsxSpreadAttribute | jsxSpreadChild
  | interfaceDeclaration | typeArguments
  | expr .array | exprPart .array | expr .object | exprPart .object
  | expr .parenthesized | exprPart .parenthesized => true
  | _ => false

/-- A token of its own stands behind all parts. -/
def closes : Kind → Bool
  | jsxOpening | jsxContainer | jsxSpreadAttribute | jsxSpreadChild
  | expr .call | exprPart .call | expr .parenthesized | exprPart .parenthesized => true
  | _ => false

/-- There is more to it than any of its parts. -/
def isComposed : Kind → Bool
  | classDeclaration | expr .function | expr (.arrow _)
  | expr .jsxFragment | exprPart .jsxFragment => true
  | _ => false

/-- There are no parts. -/
def isAtomic : Kind → Bool
  | name _ | binding _ | jsxName _ | expr (.identifier _) | exprPart (.identifier _)
  | expr (.string _) | exprPart (.string _) | templateChunk _ | jsxText => true
  | _ => false

/-- What names of tags are made of. -/
def isTagName : Kind → Bool
  | jsxName _ | jsxMember | jsxNamespaced | exprPart (.identifier _) | exprPart .this => true
  | _ => false

end Kind

namespace Node

mutual

/-- The least span around all nodes of a tree. -/
def extent : Node → Span
  | mk _ s cs => extentOfList s cs

/-- The least span around a span and all nodes of some trees. -/
def extentOfList (s : Span) : List Node → Span
  | [] => s
  | n :: ns => n.extent.hull (extentOfList s ns)

end

/-- The first of two parts is a name, and the second spells it as well. -/
def Respelled (a b : Node) : Prop :=
  a.kind.isSpelling = true ∧ a.children.isEmpty = true ∧
    ∀ text ∈ a.identifier?, ∃ m ∈ b.preorder, m.identifier? = some text ∧ m.span = a.span

/-- The first of two parts is the parameter `this`, and the second holds the parameters behind it. -/
def LeadsParameters (a b : Node) : Prop :=
  a.kind = .thisParameter ∧ b.kind = .parameters ∧ ∀ c ∈ b.children, a.extent.Apart c.extent

/-- The parts of an element: an opening tag at its start, which is followed by `/>` when it is all
there is, and the children with the closing tag. -/
def ElementParts (n : Node) : List Node → Prop
  | [] => False
  | opening :: rest =>
    opening.opening?.isSome = true ∧ opening.span.start = n.span.start ∧
      ((rest.find? isClosing).isNone = true →
        opening.span.stop = n.span.stop ∧
          ∀ part ∈ opening.children, part.extent.stop + 2 ≤ opening.span.stop)

instance (a b : Node) : Decidable (a.Respelled b) :=
  inferInstanceAs (Decidable (_ ∧ _ ∧ ∀ text ∈ a.identifier?, _))

instance (a b : Node) : Decidable (a.LeadsParameters b) :=
  inferInstanceAs (Decidable (_ ∧ _ ∧ ∀ c ∈ b.children, _))

instance (n : Node) : (parts : List Node) → Decidable (n.ElementParts parts)
  | [] => isFalse id
  | _ :: _ => inferInstanceAs (Decidable (_ ∧ _ ∧ (_ → _ ∧ _)))

/-- A node as parsing makes it. -/
structure Formed (source : Source) (n : Node) : Prop where
  ordered : n.span.start ≤ n.span.stop
  bounded : n.span.stop ≤ source.size
  nonempty : n.kind.mayBeEmpty = false → n.span.start < n.span.stop
  inside : n.kind.mayBeDecorated = false → ∀ c ∈ n.children, c.extent.Within n.span
  beside : n.children.Pairwise fun a b =>
    a.extent.Apart b.extent ∨ (n.kind.mayRespell = true ∧ a.Respelled b) ∨
      (n.kind.mayTakeThis = true ∧ a.LeadsParameters b)
  opens : n.kind.opens = true → ∀ c ∈ n.children, n.span.start < c.extent.start
  closes : n.kind.closes = true → ∀ c ∈ n.children, c.extent.stop < n.span.stop
  composed : n.kind.isComposed = true → ∀ c ∈ n.children, ¬ n.span.Within c.extent
  atomic : n.kind.isAtomic = true → n.children.isEmpty = true
  /-- The arguments of a call follow what is called. -/
  called : n.form? = some .call → ∀ c ∈ n.children.tail, n.span.start < c.extent.start
  wrapped : n.form? = some .parenthesized → n.children.length = 1
  element : n.form? = some .jsxElement → n.ElementParts n.children
  /-- An opening tag starts with `<`. -/
  bracket : n.kind = .jsxOpening → source.byte? n.span.start = some 60
  undecorated : n.kind.mayHoldStatements = false → ∀ c ∈ n.children, c.kind.mayBeDecorated = false
  filled : n.kind = .jsxOpening ∨ n.kind = .jsxAttribute → ∀ c ∈ n.children, c.kind.mayBeEmpty = false
  /-- An attribute has a name and at most one value. -/
  pair : n.kind = .jsxAttribute → n.children.length ≤ 2
  /-- The name of a type is followed by type arguments only. -/
  reference : n.kind = .typeReference → ∀ c ∈ n.children.tail, c.kind = .typeArguments
  closing : n.kind = .jsxClosing → ∀ m ∈ n.descendants, m.kind.isTagName = true

instance (source : Source) (n : Node) : Decidable (n.Formed source) :=
  decidable_of_iff
    ((n.span.start ≤ n.span.stop)
      ∧ (n.span.stop ≤ source.size)
      ∧ (n.kind.mayBeEmpty = false → n.span.start < n.span.stop)
      ∧ (n.kind.mayBeDecorated = false → ∀ c ∈ n.children, c.extent.Within n.span)
      ∧ (n.children.Pairwise fun a b =>
          a.extent.Apart b.extent ∨ (n.kind.mayRespell = true ∧ a.Respelled b) ∨
            (n.kind.mayTakeThis = true ∧ a.LeadsParameters b))
      ∧ (n.kind.opens = true → ∀ c ∈ n.children, n.span.start < c.extent.start)
      ∧ (n.kind.closes = true → ∀ c ∈ n.children, c.extent.stop < n.span.stop)
      ∧ (n.kind.isComposed = true → ∀ c ∈ n.children, ¬ n.span.Within c.extent)
      ∧ (n.kind.isAtomic = true → n.children.isEmpty = true)
      ∧ (n.form? = some .call → ∀ c ∈ n.children.tail, n.span.start < c.extent.start)
      ∧ (n.form? = some .parenthesized → n.children.length = 1)
      ∧ (n.form? = some .jsxElement → n.ElementParts n.children)
      ∧ (n.kind = .jsxOpening → source.byte? n.span.start = some 60)
      ∧ (n.kind.mayHoldStatements = false → ∀ c ∈ n.children, c.kind.mayBeDecorated = false)
      ∧ (n.kind = .jsxOpening ∨ n.kind = .jsxAttribute →
          ∀ c ∈ n.children, c.kind.mayBeEmpty = false)
      ∧ (n.kind = .jsxAttribute → n.children.length ≤ 2)
      ∧ (n.kind = .typeReference → ∀ c ∈ n.children.tail, c.kind = .typeArguments)
      ∧ (n.kind = .jsxClosing → ∀ m ∈ n.descendants, m.kind.isTagName = true))
    ⟨fun ⟨a, b, c, d, e, f, g, h, i, j, k, l, m, o, p, q, r, s⟩ =>
        ⟨a, b, c, d, e, f, g, h, i, j, k, l, m, o, p, q, r, s⟩,
      fun ⟨a, b, c, d, e, f, g, h, i, j, k, l, m, o, p, q, r, s⟩ =>
        ⟨a, b, c, d, e, f, g, h, i, j, k, l, m, o, p, q, r, s⟩⟩

/-- A tree as parsing makes it. -/
def WellFormed (source : Source) (root : Node) : Prop := ∀ n ∈ root.preorder, n.Formed source

instance (source : Source) (root : Node) : Decidable (root.WellFormed source) :=
  inferInstanceAs (Decidable (∀ n ∈ root.preorder, n.Formed source))

theorem WellFormed.formed {source : Source} {root n : Node} (formed : root.WellFormed source)
    (inside : n ∈ root.preorder) : n.Formed source := formed n inside

theorem WellFormed.of_mem {source : Source} {root n : Node} (formed : root.WellFormed source)
    (inside : n ∈ root.preorder) : n.WellFormed source :=
  fun m below => formed m (preorder_trans below inside)

theorem WellFormed.root {source : Source} {n : Node} (formed : n.WellFormed source) :
    n.Formed source := formed n n.self_mem_preorder

theorem WellFormed.child {source : Source} {n c : Node} (formed : n.WellFormed source)
    (child : c ∈ n.children) : c.WellFormed source := formed.of_mem (mem_preorder_of_child child)

/-! ### Extents -/

theorem within_extentOfList (s : Span) (ns : List Node) : s.Within (extentOfList s ns) := by
  induction ns with
  | nil => exact Span.Within.refl s
  | cons n ns ih => exact ih.trans (Span.within_hull_right _ _)

theorem extent_within_extentOfList {s : Span} {ns : List Node} {n : Node} (member : n ∈ ns) :
    n.extent.Within (extentOfList s ns) := by
  induction ns with
  | nil => cases member
  | cons m ns ih =>
    rcases List.mem_cons.mp member with rfl | later
    · exact Span.within_hull_left _ _
    · exact (ih later).trans (Span.within_hull_right _ _)

theorem extentOfList_within {s around : Span} {ns : List Node} (here : s.Within around)
    (each : ∀ n ∈ ns, n.extent.Within around) : (extentOfList s ns).Within around := by
  induction ns with
  | nil => exact here
  | cons n ns ih =>
    exact Span.hull_within (each n List.mem_cons_self)
      (ih fun m later => each m (List.mem_cons_of_mem _ later))

theorem extent_eq (n : Node) : n.extent = extentOfList n.span n.children := by
  cases n
  rw [extent, span, children]

theorem span_within_extent (n : Node) : n.span.Within n.extent := by
  rw [extent_eq]
  exact within_extentOfList _ _

theorem child_extent_within {c n : Node} (child : c ∈ n.children) : c.extent.Within n.extent := by
  rw [extent_eq n]
  exact extent_within_extentOfList child

theorem extent_within_extent {m n : Node} (inside : m ∈ n.preorder) :
    m.extent.Within n.extent := by
  induction n using childrenInduction with
  | step n ih =>
    rcases mem_preorder.mp inside with rfl | below
    · exact Span.Within.refl _
    · obtain ⟨c, child, deeper⟩ := mem_descendants.mp below
      exact (ih c child deeper).trans (child_extent_within child)

theorem span_within_extent_of_mem {m n : Node} (inside : m ∈ n.preorder) :
    m.span.Within n.extent := (span_within_extent m).trans (extent_within_extent inside)

/-- Only decorators stand outside the span of a node. -/
theorem Formed.extent_eq_span {source : Source} {n : Node} (formed : n.Formed source)
    (plain : n.kind.mayBeDecorated = false) : n.extent = n.span := by
  have outer : n.extent.Within n.span := by
    rw [extent_eq]
    exact extentOfList_within (Span.Within.refl _) (formed.inside plain)
  have inner := span_within_extent n
  cases whole : n.extent
  cases own : n.span
  rw [whole, own] at outer inner
  obtain ⟨low, high⟩ := outer
  obtain ⟨low', high'⟩ := inner
  simp only [Span.mk.injEq] at *
  omega

theorem Formed.within_span {source : Source} {m n : Node} (formed : n.Formed source)
    (plain : n.kind.mayBeDecorated = false) (inside : m ∈ n.preorder) : m.span.Within n.span := by
  have within := span_within_extent_of_mem inside
  rwa [formed.extent_eq_span plain] at within

/-! ### Nodes beside each other -/

theorem eq_of_mem_preorder_of_isEmpty {m n : Node} (leaf : n.children.isEmpty = true)
    (inside : m ∈ n.preorder) : m = n := by
  rcases mem_preorder.mp inside with same | below
  · exact same
  · obtain ⟨c, child, _⟩ := mem_descendants.mp below
    rw [List.isEmpty_iff.mp leaf] at child
    cases child

/-- Below two parts of a node, the second of which is not the list of parameters, spans meet only
when the first part is a name that the second spells as well. -/
theorem Formed.beside_below {source : Source} {n c d a b : Node} (formed : n.Formed source)
    (order : [c, d].Sublist n.children) (first : a ∈ c.preorder) (second : b ∈ d.preorder)
    (notParameters : b.kind ≠ .parameters) :
    a.extent.Apart b.extent ∨ (n.kind.mayRespell = true ∧ c.Respelled d ∧ a = c) := by
  have below := extent_within_extent first
  rcases List.pairwise_iff_forall_sublist.mp formed.beside order with apart | respelled | leads
  · exact Or.inl (apart.within below (extent_within_extent second))
  · exact Or.inr ⟨respelled.1, respelled.2, eq_of_mem_preorder_of_isEmpty respelled.2.2.1 first⟩
  · obtain ⟨_, _, parameters, apart⟩ := leads
    rcases mem_preorder.mp second with rfl | deeper
    · exact absurd parameters notParameters
    · obtain ⟨x, child, inside⟩ := mem_descendants.mp deeper
      exact Or.inl ((apart x child).within below (extent_within_extent inside))

/-- What stands beside all other parts of a node: neither the parameters of a function nor the
parameter `this`. -/
def IsPlainPart (n : Node) : Prop := n.kind ≠ .thisParameter ∧ n.kind ≠ .parameters

/-- Two parts of a node are the same or lie beside each other, unless the node may spell a name
once for both or the parts may be a parameter `this` and the parameters behind it. -/
theorem Formed.eq_or_apart {source : Source} {n a b : Node} (formed : n.Formed source)
    (unspelled : n.kind.mayRespell = false) (first : a ∈ n.children) (second : b ∈ n.children)
    (plain : n.kind.mayTakeThis = false ∨ a.IsPlainPart) : a = b ∨ a.extent.Apart b.extent := by
  have beside : n.children.Pairwise fun a b =>
      n.kind.mayTakeThis = false ∨ a.IsPlainPart ∨ b.IsPlainPart → a.extent.Apart b.extent := by
    refine formed.beside.imp ?_
    intro a b related plain
    rcases related with apart | respelled | leads
    · exact apart
    · rw [unspelled] at respelled
      cases respelled.1
    · obtain ⟨takes, isThis, parameters, _⟩ := leads
      rcases plain with never | plain | plain
      · rw [never] at takes
        cases takes
      · exact absurd isThis plain.1
      · exact absurd parameters plain.2
  by_cases same : a = b
  · exact Or.inl same
  · have symmetric : Std.Symm fun a b : Node =>
        n.kind.mayTakeThis = false ∨ a.IsPlainPart ∨ b.IsPlainPart → a.extent.Apart b.extent :=
      ⟨fun a b apart plain => (apart (plain.imp id Or.symm)).symm⟩
    exact Or.inr (beside.forall first second same (plain.imp id Or.inl))

/-- The parts of most nodes lie beside each other. -/
theorem Formed.parts_apart {source : Source} {n : Node} (formed : n.Formed source)
    (unspelled : n.kind.mayRespell = false) (never : n.kind.mayTakeThis = false) :
    n.children.Pairwise fun a b => a.extent.Apart b.extent := by
  refine formed.beside.imp ?_
  intro a b related
  rcases related with apart | respelled | leads
  · exact apart
  · rw [unspelled] at respelled
    cases respelled.1
  · rw [never] at leads
    cases leads.1

/-- Of two visits the later node is below the earlier one, or nothing of the one is under the other,
or the first node is a name that the second spells as well. -/
theorem WellFormed.visits_apart {source : Source} {root : Node} (formed : root.WellFormed source) :
    root.visits.Pairwise fun v w =>
      w.node ∈ v.node.descendants ∨ v.node.extent.Apart w.node.extent ∨
        v.node.kind.isSpelling = true ∨ w.node.kind = .parameters := by
  refine (visits_pairwise [] root).imp ?_
  intro v w related
  rcases related with below | ⟨n, inside, c, d, order, first, second⟩
  · exact Or.inl below
  · refine Or.inr ?_
    by_cases parameters : w.node.kind = .parameters
    · exact Or.inr (Or.inr parameters)
    · rcases (formed n inside).beside_below order first second parameters with
        apart | ⟨_, respelled, same⟩
      · exact Or.inl apart
      · rw [same]
        exact Or.inr (Or.inl respelled.1)

/-- Two nodes are nested or lie beside each other. -/
theorem WellFormed.nested_or_apart {source : Source} {root a b : Node}
    (formed : root.WellFormed source) (first : a ∈ root.preorder) (second : b ∈ root.preorder)
    (plain : a.kind.isSpelling = false ∧ a.kind ≠ .parameters)
    (plain' : b.kind.isSpelling = false ∧ b.kind ≠ .parameters) :
    a ∈ b.preorder ∨ b ∈ a.preorder ∨ a.extent.Apart b.extent := by
  obtain ⟨v, visitedA, rfl⟩ := List.mem_map.mp first
  obtain ⟨w, visitedB, rfl⟩ := List.mem_map.mp second
  by_cases same : v = w
  · rw [same]
    exact Or.inl (self_mem_preorder _)
  have related : root.visits.Pairwise fun v w =>
      (v.node.kind.isSpelling = false ∧ v.node.kind ≠ .parameters) →
      (w.node.kind.isSpelling = false ∧ w.node.kind ≠ .parameters) →
      v.node ∈ w.node.preorder ∨ w.node ∈ v.node.preorder ∨
        v.node.extent.Apart w.node.extent := by
    refine formed.visits_apart.imp ?_
    rintro v w (below | apart | spelling | parameters) plain plain'
    · exact Or.inr (Or.inl (mem_preorder.mpr (Or.inr below)))
    · exact Or.inr (Or.inr apart)
    · rw [plain.1] at spelling
      cases spelling
    · exact absurd parameters plain'.2
  have symmetric : Std.Symm fun v w : Visit =>
      (v.node.kind.isSpelling = false ∧ v.node.kind ≠ .parameters) →
      (w.node.kind.isSpelling = false ∧ w.node.kind ≠ .parameters) →
      v.node ∈ w.node.preorder ∨ w.node ∈ v.node.preorder ∨
        v.node.extent.Apart w.node.extent := by
    refine ⟨?_⟩
    intro v w related plain plain'
    rcases related plain' plain with inside | around | apart
    · exact Or.inr (Or.inl inside)
    · exact Or.inl around
    · exact Or.inr (Or.inr apart.symm)
  exact related.forall visitedA visitedB same plain plain'

end Node

/-- A text parses to a program with a property that can be decided. -/
theorem Program.exists_parse {source : Source} {dialect : Dialect} {p : Program → Prop}
    [DecidablePred p]
    (decided : (match parse source dialect with
      | .ok program => decide (p program)
      | .error _ => false) = true) :
    ∃ program, parse source dialect = .ok program ∧ p program := by
  split at decided
  · exact ⟨_, ‹_›, of_decide_eq_true decided⟩
  · cases decided

end JsxCheck
