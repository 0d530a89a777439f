import JsxCheck.Proofs.Rule.ElementsOnce
import JsxCheck.Proofs.Rule.NodesOnce
import JsxCheck.Proofs.Syntax.Searches

/-!
The rules that search the values handed to properties, and the spans that they point at twice.

A tag may stand in a value that is searched for another tag, and then its own values are searched
again. `searchedValues_nodup_iff` says that this is the only way in which such a rule points at a span
twice.
-/
namespace JsxCheck

open Node Visit

variable {source : Source} {root : Node}

/-! ### The values of a tag -/

theorem AttributeItem.mem_values {c : Node} {item : AttributeItem} {owner : Option Attribute}
    {value : Node} (isItem : c.attributeItem? = some item) (handed : (owner, value) ∈ item.values) :
    value ∈ c.preorder := by
  cases item with
  | named a =>
    obtain ⟨e, given, same⟩ := List.mem_map.mp handed
    obtain ⟨_, rfl⟩ := Prod.mk.inj same
    obtain ⟨_, container, held, _, content⟩ := expression?_eq_some (Option.mem_toList.mp given)
    exact preorder_trans (mem_preorder_of_child (by rw [content]; exact List.mem_cons_self))
      (mem_preorder_of_child (value_mem isItem held).2)
  | spread s argument =>
    obtain ⟨e, found, same⟩ := List.mem_map.mp handed
    obtain ⟨_, rfl⟩ := Prod.mk.inj same
    obtain ⟨_, parts, _⟩ := attributeItem?_eq_spread isItem
    exact preorder_trans (propertyValues_mem found)
      (mem_preorder_of_child (by rw [parts]; exact List.mem_cons_self))

theorem AttributeItem.values_pairwise {c : Node} {item : AttributeItem}
    (formed : c.WellFormed source) (isItem : c.attributeItem? = some item) :
    item.values.Pairwise fun a b => a.2.extent.Apart b.2.extent := by
  cases item with
  | named a =>
    change (a.expression?.toList.map fun e => (some a, e)).Pairwise _
    cases a.expression? with
    | none => exact List.Pairwise.nil
    | some e => exact List.pairwise_singleton _ _
  | spread s argument =>
    obtain ⟨_, parts, _⟩ := attributeItem?_eq_spread isItem
    have inner : argument ∈ c.children := by rw [parts]; exact List.mem_cons_self
    exact List.pairwise_map.mpr (propertyValues_pairwise (formed.child inner))

namespace Opening

/-- The values handed to properties other than those of the attributes left out. -/
def searched (leaveOut : Attribute → Bool) (o : Opening) : List Node :=
  (o.values.filter fun handed => !handed.1.any leaveOut).map Prod.snd

theorem searchedValues_eq (p : Node → Bool) (leaveOut : Attribute → Bool) (o : Opening) :
    Rule.searchedValues p leaveOut o = (o.searched leaveOut).flatMap (matching p) := by
  unfold Rule.searchedValues searched
  induction o.values with
  | nil => rfl
  | cons handed rest ih =>
    obtain ⟨owner, value⟩ := handed
    rw [List.flatMap_cons, ih, List.filter_cons]
    cases left : owner.any leaveOut <;> simp [left]

variable {n : Node} {o : Opening} {leaveOut : Attribute → Bool}

theorem mem_searched {value : Node} (view : n.opening? = some o)
    (listed : value ∈ o.searched leaveOut) : value ∈ n.preorder := by
  obtain ⟨⟨owner, value⟩, handed, rfl⟩ := List.mem_map.mp listed
  obtain ⟨item, inTag, given⟩ := List.mem_flatMap.mp (List.mem_filter.mp handed).1
  obtain ⟨c, child, isItem⟩ := mem_items view inTag
  exact preorder_trans (AttributeItem.mem_values isItem given) (mem_preorder_of_child child)

theorem searched_pairwise (formed : n.WellFormed source) (view : n.opening? = some o) :
    (o.searched leaveOut).Pairwise fun a b => a.extent.Apart b.extent := by
  refine List.pairwise_map.mpr (List.Pairwise.sublist List.filter_sublist ?_)
  rw [Opening.values, List.pairwise_flatMap]
  refine ⟨?_, formed.root.items_pairwise view ?_⟩
  · intro item listed
    obtain ⟨c, child, isItem⟩ := mem_items view listed
    exact AttributeItem.values_pairwise (formed.child child) isItem
  · rintro c child d child' i j isItem isItem' apart ⟨_, a⟩ first ⟨_, b⟩ second
    exact apart.within (extent_within_extent (AttributeItem.mem_values isItem first))
      (extent_within_extent (AttributeItem.mem_values isItem' second))

/-- The outermost matches in the values of a tag lie beside each other. -/
theorem searchedValues_pairwise (p : Node → Bool) (formed : n.WellFormed source)
    (view : n.opening? = some o) :
    (Rule.searchedValues p leaveOut o).Pairwise fun a b => a.extent.Apart b.extent := by
  rw [searchedValues_eq, List.pairwise_flatMap]
  refine ⟨?_, (searched_pairwise formed view).imp ?_⟩
  · intro value listed
    exact matching_pairwise (formed.of_mem (mem_searched view listed))
  · intro value value' apart a first b second
    exact apart.within (extent_within_extent (mem_matching.mp first).1.inside)
      (extent_within_extent (mem_matching.mp second).1.inside)

end Opening

/-! ### Tags in values of tags -/

/-- Every match in a value of a tag is found for that tag only: where the search of a value comes to
a value of another tag, nothing is found in it. -/
def Node.SearchedApart (root : Node) (p : Node → Bool) (leaveOut : Attribute → Bool) : Prop :=
  ∀ n ∈ root.preorder, ∀ m ∈ root.preorder, n ≠ m → ∀ o o', n.opening? = some o →
    m.opening? = some o' → ∀ value ∈ o.searched leaveOut, ∀ value' ∈ o'.searched leaveOut,
      Reaches p value value' → value'.matching p = []

/-- The predicate holds of expressions only, and of none with the span of one below. -/
structure Node.Searchable (source : Source) (p : Node → Bool) : Prop where
  isExpr : ∀ n, p n = true → n.isExpr = true
  span_ne : ∀ n : Node, n.WellFormed source → p n = true →
    ∀ m ∈ n.descendants, p m = true → m.span ≠ n.span

theorem Node.searchable_of_outgrows {p : Node → Bool} (isExpr : ∀ n, p n = true → n.isExpr = true)
    (longer : ∀ n, p n = true → n.kind.outgrows = true) : Searchable source p :=
  ⟨isExpr, fun n formed holds _ below _ => formed.root.span_ne_below (longer n holds) below⟩

theorem Node.Searchable.eq_of_span_eq {p : Node → Bool} (searchable : Searchable source p)
    (formed : root.WellFormed source) {x y : Node} (first : x ∈ root.preorder)
    (second : y ∈ root.preorder) (holds : p x = true) (holds' : p y = true)
    (same : x.span = y.span) : x = y := by
  have plain := isExpr_plain (searchable.isExpr x holds)
  have plain' := isExpr_plain (searchable.isExpr y holds')
  rcases formed.nested_or_apart first second ⟨plain.1, plain.2.1⟩ ⟨plain'.1, plain'.2.1⟩ with
    inside | around | apart
  · rcases mem_preorder.mp inside with equal | below
    · exact equal
    · exact absurd same (searchable.span_ne y (formed.of_mem second) holds' x below holds)
  · rcases mem_preorder.mp around with equal | below
    · exact equal.symm
    · exact absurd same.symm (searchable.span_ne x (formed.of_mem first) holds y below holds')
  · exact absurd same ((apart.within (span_within_extent x) (span_within_extent y)).ne
      ((formed.formed first).nonempty plain.2.2.1))

namespace Rule

variable {p : Node → Bool} {leaveOut : Attribute → Bool}

theorem spans_warnAt (r : RuleName) (message : String) (nodes : List Node) :
    spansOf (warnAt r message nodes) = nodes.map Node.span := by
  rw [spansOf, warnAt, List.map_map]
  rfl

theorem mem_searchedValues {o : Opening} {x : Node} :
    x ∈ searchedValues p leaveOut o ↔ ∃ value ∈ o.searched leaveOut, x ∈ value.matching p := by
  rw [Opening.searchedValues_eq, List.mem_flatMap]

theorem searchedValues_nodup {n : Node} {o : Opening}
    (formed : n.WellFormed source) (view : n.opening? = some o) :
    ((searchedValues p leaveOut o).map Node.span).Nodup := by
  refine List.pairwise_map.mpr ((Opening.searchedValues_pairwise p formed view).imp_of_mem ?_)
  intro x y first _ apart
  obtain ⟨value, listed, found⟩ := mem_searchedValues.mp first
  obtain ⟨reached, isExpr, _⟩ := mem_matching.mp found
  have solid := (formed.formed (preorder_trans reached.inside
    (Opening.mem_searched view listed))).nonempty (isExpr_plain isExpr).2.2.1
  exact (apart.within (span_within_extent x) (span_within_extent y)).ne solid

/-- What two tags point at differs when their values are searched apart. -/
theorem searchedValues_disjoint (searchable : Searchable source p)
    (formed : root.WellFormed source) (separate : root.SearchedApart p leaveOut) {n m : Node}
    {o o' : Opening} (first : n ∈ root.preorder) (second : m ∈ root.preorder) (different : n ≠ m)
    (view : n.opening? = some o) (view' : m.opening? = some o') :
    ((searchedValues p leaveOut o).map Node.span).Disjoint
      ((searchedValues p leaveOut o').map Node.span) := by
  intro s one two
  obtain ⟨x, found, rfl⟩ := List.mem_map.mp one
  obtain ⟨y, found', same⟩ := List.mem_map.mp two
  obtain ⟨value, listed, inValue⟩ := mem_searchedValues.mp found
  obtain ⟨value', listed', inValue'⟩ := mem_searchedValues.mp found'
  obtain ⟨reached, isExpr, holds⟩ := mem_matching.mp inValue
  obtain ⟨reached', _, holds'⟩ := mem_matching.mp inValue'
  have inTree := preorder_trans (Opening.mem_searched view listed) first
  have inTree' := preorder_trans (Opening.mem_searched view' listed') second
  have placed := preorder_trans reached.inside inTree
  obtain rfl : y = x := searchable.eq_of_span_eq formed
    (preorder_trans reached'.inside inTree') placed holds' holds same
  have solid := (formed.formed placed).nonempty (isExpr_plain isExpr).2.2.1
  rcases formed.nested_of_common isExpr solid inTree inTree' reached.inside reached'.inside with
    inside | around
  · have comes := reached'.of_mem (formed.of_mem inTree') isExpr solid inside reached.inside
    rw [separate m second n first (Ne.symm different) o' o view' view value' listed' value listed
      comes] at inValue
    cases inValue
  · have comes := reached.of_mem (formed.of_mem inTree) isExpr solid around reached'.inside
    rw [separate n first m second different o o' view view' value listed value' listed'
      comes] at inValue'
    cases inValue'

/-- A rule that searches values points at no span twice exactly when nothing that it finds for a tag
is found for a tag in one of the values as well. -/
theorem searchedValues_nodup_iff (r : RuleName) (message : String)
    (searchable : Searchable source p) (formed : root.WellFormed source) :
    (spansOf (root.visits.flatMap
        (onOpening fun o => warnAt r message (searchedValues p leaveOut o)))).Nodup ↔
      root.SearchedApart p leaveOut := by
  rw [spansOf, List.map_flatMap]
  have said : ∀ {v : Visit} {o : Opening}, v.node.opening? = some o →
      (v.onOpening fun o => warnAt r message (searchedValues p leaveOut o)).map Diagnostic.span =
        (searchedValues p leaveOut o).map Node.span := by
    intro v o view
    rw [onOpening, view]
    exact spans_warnAt r message _
  constructor
  · intro once n first m second different o o' view view' value listed value' listed' comes
    by_contra found
    obtain ⟨x, inValue'⟩ := List.exists_mem_of_ne_nil _ found
    obtain ⟨reached, holds⟩ := mem_matching.mp inValue'
    have inValue : x ∈ value.matching p := mem_matching.mpr ⟨comes.trans reached, holds⟩
    obtain ⟨v, visited, rfl⟩ := List.mem_map.mp first
    obtain ⟨w, visited', rfl⟩ := List.mem_map.mp second
    refine different (congrArg Visit.node (visit_eq_of_nodup once visited visited' (s := x.span) ?_ ?_))
    · rw [said view]
      exact List.mem_map_of_mem (mem_searchedValues.mpr ⟨value, listed, inValue⟩)
    · rw [said view']
      exact List.mem_map_of_mem (mem_searchedValues.mpr ⟨value', listed', inValue'⟩)
  · intro separate
    refine List.nodup_flatMap.mpr ⟨?_, formed.visits_apart.imp_of_mem ?_⟩
    · intro v member
      cases view : v.node.opening? with
      | none =>
        rw [onOpening, view]
        exact List.nodup_nil
      | some o =>
        rw [said view]
        exact searchedValues_nodup (formed.of_mem (node_mem_preorder member)) view
    · intro v w memberV memberW related
      have first := node_mem_preorder memberV
      cases view : v.node.opening? with
      | none =>
        change List.Disjoint _ _
        beta_reduce
        rw [onOpening, view]
        exact List.disjoint_nil_left _
      | some o =>
        cases view' : w.node.opening? with
        | none =>
          change List.Disjoint _ _
          beta_reduce
          rw [List.disjoint_comm, onOpening, view']
          exact List.disjoint_nil_left _
        | some o' =>
          have different : v.node ≠ w.node := by
            have kind := (opening?_eq_some view).1
            intro same
            rw [← same, kind] at related
            rcases related with below | apart | spelling | parameters
            · exact Nat.lt_irrefl _ (length_preorder_lt below)
            · exact (apart.within (span_within_extent _) (span_within_extent _)).ne
                ((formed.formed first).nonempty (by rw [kind]; rfl)) rfl
            · cases spelling
            · cases parameters
          change List.Disjoint _ _
          beta_reduce
          rw [said view, said view']
          exact searchedValues_disjoint searchable formed separate first
            (node_mem_preorder memberW) different view view'

/-! ### What is searched for -/

theorem isExpr_of_expr? {n : Node} {form : Expr} (view : n.expr? = some form) :
    n.isExpr = true ∧ n.kind = .expr form := by
  refine ⟨by rw [Node.isExpr, view]; rfl, ?_⟩
  unfold Node.expr? at view
  split at view
  · cases view
    assumption
  · cases view

theorem searchable_isCallWith (doc : Document) (words : String) :
    Searchable source (isCallWith doc words) := by
  have call : ∀ n, isCallWith doc words n = true → n.expr? = some .call :=
    fun n holds => beq_iff_eq.mp (Bool.and_eq_true_iff.mp holds).1
  refine searchable_of_outgrows (fun n holds => (isExpr_of_expr? (call n holds)).1) ?_
  intro n holds
  rw [(isExpr_of_expr? (call n holds)).2]
  rfl

theorem searchable_isObject : Searchable source isObject := by
  have object : ∀ n, isObject n = true → n.expr? = some .object := fun n => beq_iff_eq.mp
  refine searchable_of_outgrows (fun n holds => (isExpr_of_expr? (object n holds)).1) ?_
  intro n holds
  rw [(isExpr_of_expr? (object n holds)).2]
  rfl

theorem isFunctionLike_plain {n : Node} (function : n.isFunctionLike = true) :
    n.isExpr = true ∧ n.kind.outgrows = true := by
  unfold Node.isFunctionLike at function
  split at function
  · obtain ⟨expression, kind⟩ := isExpr_of_expr? ‹_›
    exact ⟨expression, by rw [kind]; rfl⟩
  · obtain ⟨expression, kind⟩ := isExpr_of_expr? ‹_›
    exact ⟨expression, by rw [kind]; rfl⟩
  · cases function

theorem searchable_isFunctionLike : Searchable source Node.isFunctionLike :=
  searchable_of_outgrows (fun _ function => (isFunctionLike_plain function).1)
    fun _ function => (isFunctionLike_plain function).2

theorem searchable_isElement : Searchable source isElement := by
  have element : ∀ n, isElement n = true → n.isExpr = true ∧ n.form? = some .jsxElement := by
    intro n holds
    obtain ⟨expression, kind⟩ := isExpr_of_expr? (beq_iff_eq.mp holds)
    exact ⟨expression, by simp [Node.form?, kind]⟩
  refine ⟨fun n holds => (element n holds).1, ?_⟩
  intro n formed holds m below holds'
  exact IsElementOrFragment.span_ne formed (Or.inl (element n holds).2) below
    (Or.inl (element m holds').2)

end Rule

end JsxCheck
