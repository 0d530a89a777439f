import JsxCheck.Proofs.Syntax.Searches
import JsxCheck.Proofs.Syntax.Sites

/-!
What pruned walks come to.

The walks over expressions and the search for values of properties list places of a tree:
`expressions_eq_walk`, `matching_eq_outermost` and `propertyValues_eq_outermost`. From what is known of
places follow the two main statements. `expressions_pruned_exactly` is about expressions: a walk leaves
out what is below the places skipped and nothing else, and a search finds the outermost expressions it
looks for. `spread_values_complete` is about the values written out in a spread.
-/
namespace JsxCheck

namespace Node

variable {n : Node} {p : Node → Bool}

theorem map_node_walkFrom (seen prune : Node → Bool) (i : Nat) (ns : List Node) :
    (walkFrom seen (fun s => prune s.node) i ns).map Site.node =
      ns.flatMap fun c => (c.walk seen fun s => prune s.node).map Site.node := by
  induction ns generalizing i with
  | nil => rfl
  | cons n ns ih =>
    rw [walkFrom, List.map_append, ih, List.flatMap_cons, List.map_map]
    rfl

/-! ### Expressions -/

def exprSites (root : Node) : List Site := root.walk isExpr fun _ => false

theorem mem_exprSites {s : Site} : s ∈ n.exprSites ↔ n.Has s ∧ s.node.isExpr = true := by
  rw [exprSites, mem_walk]
  simp only [implies_true, and_true]

theorem expressions_eq_walk (prune : Node → Bool) (n : Node) :
    n.expressions prune = (n.walk isExpr fun s => prune s.node).map Site.node := by
  induction n using childrenInduction with
  | step n ih =>
    have parts : expressionsOfList prune n.children =
        (walkFrom isExpr (fun s => prune s.node) 0 n.children).map Site.node := by
      rw [expressionsOfList_eq_flatMap, map_node_walkFrom]
      exact List.flatMap_congr ih
    rw [walk_eq]
    cases n with
    | mk k s cs =>
      rw [expressions, show expressionsOfList prune cs = _ from parts]
      split
      · split <;> rfl
      · rfl

theorem matching_eq_outermost (p : Node → Bool) (n : Node) :
    n.matching p = (n.outermost fun m => m.isExpr && p m).map Site.node := by
  induction n using childrenInduction with
  | step n ih =>
    rw [matching_eq, outermost, walk_eq]
    split
    · rfl
    · rw [map_node_walkFrom _ fun _ => true]
      exact List.flatMap_congr ih

/-- A walk over the expressions of a tree that skips nothing lists their places in pre-order. A walk
lists those of them that are below no place it skips. A search for expressions finds a part of them in
which all satisfy the predicate and none is below another, and what else satisfies it is below exactly
one that is found. -/
theorem expressions_pruned_exactly (root : Node) :
    (root.expressions (fun _ => false) = root.exprSites.map Site.node ∧
      root.exprSites.Pairwise Site.Before ∧
      ∀ s, s ∈ root.exprSites ↔ root.Has s ∧ s.node.isExpr = true) ∧
    (∀ skip : Site → Bool, root.walk isExpr skip = root.exprSites.filter fun s =>
      decide (∀ t ∈ root.exprSites, t.Above s → skip t = false)) ∧
    (∀ prune : Node → Bool,
      root.expressions prune = (root.walk isExpr fun s => prune s.node).map Site.node) ∧
    ∀ p : Node → Bool, ∃ found : List Site, found.Sublist root.exprSites ∧
      root.matching p = found.map Site.node ∧
      (root.matching p).map span = found.map (fun s => s.node.span) ∧
      (∀ s ∈ found, p s.node = true) ∧
      (∀ s ∈ found, ∀ t ∈ found, ¬ s.Above t) ∧
      ∀ s ∈ root.exprSites, p s.node = true → s ∈ found ∨ ∃! t, t ∈ found ∧ t.Above s := by
  refine ⟨⟨expressions_eq_walk _ root, walk_pairwise _ _ root, fun s => mem_exprSites⟩,
    fun skip => walk_eq_filter isExpr skip root, fun prune => expressions_eq_walk prune root, ?_⟩
  intro p
  have found := matching_eq_outermost p root
  have holds : ∀ s ∈ root.outermost fun m => m.isExpr && p m,
      s.node.isExpr = true ∧ p s.node = true := fun s listed =>
    Bool.and_eq_true_iff.mp (mem_outermost.mp listed).2.1
  refine ⟨root.outermost fun m => m.isExpr && p m, ?_, found, ?_, fun s listed => (holds s listed).2,
    fun s first t second => not_above_of_mem_outermost first second, ?_⟩
  · exact walk_sublist fun m both => (Bool.and_eq_true_iff.mp both).1
  · rw [found, List.map_map]
    rfl
  · intro s listed satisfied
    obtain ⟨has, expression⟩ := mem_exprSites.mp listed
    exact mem_outermost_or_existsUnique_above has (Bool.and_eq_true_iff.mpr ⟨expression, satisfied⟩)

/-! ### Values of properties -/

/-- The value of a property written `key: value`. -/
def keyedValue? : Node → Option Node
  | mk (.property ⟨false, false, false⟩) _ [_, value] => some value
  | _ => none

/-- There is a property written `key: value` in the tree. -/
def HoldsKeyed (n : Node) : Prop := ∃ m ∈ n.preorder, m.keyedValue?.isSome = true

instance (n : Node) : Decidable n.HoldsKeyed := inferInstanceAs (Decidable (∃ m ∈ n.preorder, _))

/-- Parts of a node that hold properties follow each other in the text. -/
def KeyedInOrder (root : Node) : Prop := ∀ m ∈ root.preorder, m.children.Pairwise fun a b =>
  a.HoldsKeyed → b.HoldsKeyed → a.extent.stop ≤ b.extent.start

instance (root : Node) : Decidable root.KeyedInOrder :=
  inferInstanceAs (Decidable (∀ m ∈ root.preorder, m.children.Pairwise _))

variable {value : Node}

theorem keyedValue?_eq_some_iff : n.keyedValue? = some value ↔
    n.kind = .property ⟨false, false, false⟩ ∧ ∃ key, n.children = [key, value] := by
  constructor
  · intro keyed
    unfold keyedValue? at keyed
    split at keyed
    · obtain rfl := Option.some.inj keyed
      exact ⟨rfl, _, rfl⟩
    · cases keyed
  · cases n
    rintro ⟨rfl, key, rfl⟩
    rfl

theorem propertyValues_of_keyed (keyed : n.keyedValue? = some value) :
    n.propertyValues = [value] := by
  cases n
  obtain ⟨rfl, key, rfl⟩ := keyedValue?_eq_some_iff.mp keyed
  rfl

theorem propertyValues_of_unkeyed (unkeyed : n.keyedValue? = none) :
    n.propertyValues = n.children.flatMap propertyValues := by
  cases n with
  | mk k s cs =>
    rw [propertyValues, propertyValuesOfList_eq_flatMap, children]
    rintro key value rfl rfl
    cases unkeyed

/-- The places of the outermost properties written `key: value`. -/
def keyedSites (n : Node) : List Site := n.outermost fun m => m.keyedValue?.isSome

/-- The values found are those of the outermost properties written `key: value`. -/
theorem map_some_propertyValues (n : Node) :
    n.propertyValues.map some = (n.keyedSites.map Site.node).map keyedValue? := by
  induction n using childrenInduction with
  | step n ih =>
    rw [keyedSites, outermost, walk_eq]
    cases keyed : n.keyedValue? with
    | some value => simp [propertyValues_of_keyed keyed, keyed]
    | none =>
      rw [propertyValues_of_unkeyed keyed, if_neg (by simp),
        map_node_walkFrom _ fun _ => true, List.map_flatMap, List.map_flatMap]
      exact List.flatMap_congr ih

theorem holdsKeyed_of_mem (found : value ∈ n.propertyValues) : n.HoldsKeyed := by
  have listed := List.mem_map_of_mem (f := some) found
  rw [map_some_propertyValues, List.map_map] at listed
  obtain ⟨s, listed, _⟩ := List.mem_map.mp listed
  obtain ⟨has, keyed, _⟩ := mem_outermost.mp listed
  exact ⟨s.node, has.mem_preorder, keyed⟩

theorem propertyValues_inOrder (ordered : n.KeyedInOrder) :
    n.propertyValues.Pairwise fun a b => a.extent.stop ≤ b.extent.start := by
  induction n using childrenInduction with
  | step n ih =>
    cases keyed : n.keyedValue? with
    | some value =>
      rw [propertyValues_of_keyed keyed]
      exact List.pairwise_singleton _ _
    | none =>
      rw [propertyValues_of_unkeyed keyed, List.pairwise_flatMap]
      refine ⟨fun c child => ih c child fun m inside =>
        ordered m (preorder_trans inside (mem_preorder_of_child child)), ?_⟩
      refine (ordered n n.self_mem_preorder).imp ?_
      intro c d follows a first b second
      calc a.extent.stop
          ≤ c.extent.stop := (extent_within_extent (propertyValues_mem first)).2
        _ ≤ d.extent.start := follows (holdsKeyed_of_mem first) (holdsKeyed_of_mem second)
        _ ≤ b.extent.start := (extent_within_extent (propertyValues_mem second)).1

/-- A spread hands over the values of properties `key: value` in its argument, one for each place in a
list of places in pre-order, in the order of the text when the properties are. No value handed over
is in another property of the list, and every property `key: value` of the argument is on the list or
in the key or the value of one that is. -/
theorem spread_values_complete (span : Span) (argument : Node) :
    ∃ found : List Site,
      (AttributeItem.spread span argument).values.map (fun given => (given.1, some given.2)) =
        found.map (fun s => (none, s.node.keyedValue?)) ∧
      found.Pairwise Site.Before ∧
      (argument.KeyedInOrder → (AttributeItem.spread span argument).values.Pairwise
        fun a b => a.2.extent.stop ≤ b.2.extent.start) ∧
      (∀ s ∈ found, argument.Has s ∧ s.node.kind = .property ⟨false, false, false⟩ ∧
        ∃ key value, s.node.children = [key, value] ∧ s.node.keyedValue? = some value) ∧
      (∀ s ∈ found, ∀ t ∈ found, s ≠ t → ¬ s.path <+: t.path ++ [1]) ∧
      ∀ s key value, argument.Has s → s.node.kind = .property ⟨false, false, false⟩ →
        s.node.children = [key, value] →
        s ∈ found ∨ ∃ t ∈ found, t.path ++ [0] <+: s.path ∨ t.path ++ [1] <+: s.path := by
  have shape : ∀ s ∈ argument.keyedSites, argument.Has s ∧
      s.node.kind = .property ⟨false, false, false⟩ ∧
        ∃ key value, s.node.children = [key, value] ∧ s.node.keyedValue? = some value := by
    intro s listed
    obtain ⟨has, keyed, _⟩ := mem_outermost.mp listed
    obtain ⟨value, keyed⟩ := Option.isSome_iff_exists.mp keyed
    obtain ⟨kind, key, parts⟩ := keyedValue?_eq_some_iff.mp keyed
    exact ⟨has, kind, key, value, parts, keyed⟩
  refine ⟨argument.keyedSites, ?_, walk_pairwise _ _ argument, ?_, shape, ?_, ?_⟩
  · have values := congrArg (List.map (Prod.mk (none : Option Attribute)))
      (map_some_propertyValues argument)
    simpa only [AttributeItem.values, List.map_map, Function.comp_def] using values
  · intro ordered
    exact List.pairwise_map.mpr (propertyValues_inOrder ordered)
  · intro s first t second different inside
    have apart := not_above_of_mem_outermost first second
    rcases List.prefix_concat_iff.mp inside with around | inside
    · -- The first place would be that of the value itself, which is below the property.
      refine not_above_of_mem_outermost second first ⟨around ▸ List.prefix_append _ _, ?_⟩
      intro same
      simp [around] at same
    · exact apart ⟨inside, fun same => different ((shape s first).1.eq (shape t second).1 same)⟩
  · intro s key value has kind parts
    have keyed : s.node.keyedValue?.isSome = true :=
      Option.isSome_iff_exists.mpr ⟨value, keyedValue?_eq_some_iff.mpr ⟨kind, key, parts⟩⟩
    refine (mem_outermost_or_existsUnique_above has keyed).imp id ?_
    rintro ⟨t, ⟨listed, above⟩, _⟩
    obtain ⟨hasT, _, key, value, parts, _⟩ := shape t listed
    obtain ⟨i, small, start⟩ := hasT.child_of_above has above
    rw [parts] at small
    refine ⟨t, listed, ?_⟩
    match i, small with
    | 0, _ => exact Or.inl start
    | 1, _ => exact Or.inr start

/-- A spread of a call with a property, a method and a property below another in the method. -/
def manyPropertiesText : String :=
  "<a \x7b...f(\x7bb: 1, c() \x7b return \x7bd: \x7be: 2\x7d\x7d \x7d\x7d)\x7d />"

set_option maxRecDepth 100000 in
theorem spread_values_complete_of_manyPropertiesText :
    ∃ program argument, Program.parse ⟨manyPropertiesText⟩ (FileName.dialect "a.tsx") = .ok program ∧
      (∃ n ∈ program.root.preorder, n.kind = .jsxSpreadAttribute ∧ argument ∈ n.children) ∧
      argument.KeyedInOrder ∧ ∃ values, (AttributeItem.spread ⟨3, 45⟩ argument).values = values ∧
        values.map (fun given => given.2.span) = [⟨13, 14⟩, ⟨33, 39⟩] ∧
        values.Pairwise (fun a b => a.2.extent.stop ≤ b.2.extent.start) := by
  have parsed : ∃ program,
      Program.parse ⟨manyPropertiesText⟩ (FileName.dialect "a.tsx") = .ok program ∧
        ∃ n ∈ program.root.preorder, n.kind = .jsxSpreadAttribute ∧ ∃ argument ∈ n.children,
          argument.KeyedInOrder ∧
            (AttributeItem.spread ⟨3, 45⟩ argument).values.map
              (fun given => given.2.span) = [⟨13, 14⟩, ⟨33, 39⟩] :=
    Program.exists_parse (by decide +kernel)
  obtain ⟨program, parsed, n, inside, kind, argument, held, ordered, spans⟩ := parsed
  obtain ⟨_, _, _, following, _⟩ := spread_values_complete ⟨3, 45⟩ argument
  exact ⟨program, argument, parsed, ⟨n, inside, kind, held⟩, ordered, _, rfl, spans,
    following ordered⟩

end Node

end JsxCheck
