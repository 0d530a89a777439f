import JsxCheck.Proofs.Rule.OnTags

/-!
The rules on opening tags point at no span twice, apart from those that search values.
-/
namespace JsxCheck

open Node Visit

variable {source : Source} {root : Node}

namespace Rule

theorem banProps_once (options : BanPropsOptions) (formed : root.WellFormed source) :
    (spansOf (root.visits.flatMap (onOpening (banProps options)))).Nodup := by
  refine nodup_onAttributes formed ?_
  intro c a formed named
  cases banOf? options a.name with
  | none => exact Points.nil
  | some ban => exact Points.one (seat_attribute_name isOpening_passes formed named)

theorem booleanValue_once (options : BooleanValueOptions) (formed : root.WellFormed source) :
    (spansOf (root.visits.flatMap (onOpening (booleanValue options)))).Nodup := by
  refine nodup_onAttributes formed ?_
  intro c a formed named
  have seat : Seat isOpening c a.span.start := seat_attribute formed named
  unfold booleanValueOf
  split
  · exact Points.ite fun _ => Points.one seat
  · split
    · exact Points.one seat
    · exact Points.nil

theorem string?_eq_some {a : Attribute} {span : Span} {text : String}
    (view : a.string? = some (span, text)) : ∃ value, a.value = some value ∧ value.span = span := by
  obtain ⟨value, given, shape⟩ := Option.bind_eq_some_iff.mp view
  split at shape
  · cases shape
    exact ⟨_, given, rfl⟩
  · cases shape

theorem bracePresence_once (options : BracePresenceOptions) (doc : Document)
    (formed : root.WellFormed source) :
    (spansOf (root.visits.flatMap (onOpening (bracePresence options doc)))).Nodup := by
  refine nodup_onAttributes formed ?_
  intro c a formed named
  unfold bracePresenceOf
  split
  · split
    · exact Points.nil
    · rename_i view
      obtain ⟨value, given, rfl⟩ := string?_eq_some view
      exact Points.one (seat_attribute_value isOpening_passes formed named given)
  · split
    · rename_i braces _
      exact Points.one
        (seat_attribute_value isOpening_passes formed named (container?_eq_some braces).1)
    · exact Points.nil

/-! ### Space around `=` -/

theorem whitespaceGap_lt {s : Source} {comments : List Span} {start stop : Nat} {gap : Gap}
    (found : whitespaceGap s comments start stop = some gap) : start < stop := by
  unfold whitespaceGap at found
  split at found
  · cases found
  · omega

/-- An offset between the name and the value of an attribute has its seat in the attribute. -/
theorem seat_between {c name value : Node} {k : Nat} (formed : c.WellFormed source)
    (kind : c.kind = .jsxAttribute) (parts : c.children = [name, value])
    (after : name.span.stop ≤ k) (before : k ≤ value.span.start) : Seat isOpening c k := by
  have child : ∀ part ∈ [name, value], part ∈ c.children := fun part member => by rwa [parts]
  have extent : ∀ part ∈ [name, value], part.extent = part.span ∧ part.span.start < part.span.stop := by
    intro part member
    have formedPart := (formed.child (child part member)).root
    have plain := formed.root.undecorated (by rw [kind]; rfl) part (child part member)
    exact ⟨formedPart.extent_eq_span plain,
      formedPart.nonempty (formed.root.filled (Or.inr kind) part (child part member))⟩
  obtain ⟨nameExtent, nameSolid⟩ := extent name (by simp)
  obtain ⟨valueExtent, valueSolid⟩ := extent value (by simp)
  have nameIn := child_extent_within (child name (by simp))
  have valueIn := child_extent_within (child value (by simp))
  rw [nameExtent] at nameIn
  rw [valueExtent] at valueIn
  have low := nameIn.1
  have high := valueIn.2
  refine ⟨⟨by omega, by omega⟩, ?_⟩
  intro m inside opening
  rcases mem_preorder.mp inside with rfl | below
  · rw [isOpening_passes m (Or.inl kind)] at opening
    cases opening
  · obtain ⟨part, member, inPart⟩ := mem_descendants.mp below
    have within := span_within_extent_of_mem inPart
    rw [parts] at member
    rcases List.mem_cons.mp member with rfl | member
    · rw [nameExtent] at within
      exact Or.inr (Nat.le_trans within.2 after)
    · obtain rfl := List.mem_singleton.mp member
      rw [valueExtent] at within
      exact Or.inl (Nat.le_trans before within.1)

theorem equalsSpacing_points (usage : Usage) (doc : Document) {c : Node} {a : Attribute}
    (formed : c.WellFormed source) (named : c.attributeItem? = some (.named a)) :
    Points isOpening c (EqualsSpacing.ofAttribute usage doc a) := by
  obtain ⟨kind, name, values, parts, rfl⟩ := attributeItem?_eq_named named
  unfold EqualsSpacing.ofAttribute
  dsimp only
  split
  · exact Points.nil
  · rename_i value given
    split
    · exact Points.nil
    · rename_i equals found
      obtain ⟨low, high, _⟩ := findToken_spec found
      have width : ("=" : String).utf8ByteSize = 1 := by decide
      rw [width] at high
      have pair := formed.root.pair kind
      have shape : c.children = [name, value] := by
        cases values with
        | nil => cases given
        | cons first rest =>
          obtain rfl := Option.some.inj given
          rw [parts, List.length_cons, List.length_cons] at pair
          rw [parts, List.length_eq_zero_iff.mp (by omega : rest.length = 0)]
      have seat : ∀ k, name.span.stop ≤ k → k ≤ value.span.start → Seat isOpening c k :=
        fun k after before => seat_between formed kind shape after before
      unfold EqualsSpacing.around
      dsimp only
      split
      · refine Points.append (Points.ite fun _ => Points.one (seat equals low (by omega)))
          (Points.ite fun _ => Points.one (seat (equals + 1) (by omega) high)) ?_
        intro d first d' second
        obtain ⟨_, rfl⟩ : _ ∧ d = _ := by simpa using first
        obtain ⟨_, rfl⟩ : _ ∧ d' = _ := by simpa using second
        exact Nat.ne_of_lt (Nat.lt_succ_self equals)
      · refine Points.append ?_ ?_ ?_
        · cases gap : whitespaceGap doc.source doc.comments name.span.stop equals with
          | none => exact Points.nil
          | some gap =>
            have space := whitespaceGap_lt gap
            exact Points.one (seat (equals - 1) (by omega) (by omega))
        · cases whitespaceGap doc.source doc.comments (equals + 1) value.span.start with
          | none => exact Points.nil
          | some gap => exact Points.one (seat (equals + 1) (by omega) high)
        · intro d first d' second
          obtain ⟨_, _, rfl⟩ := List.mem_map.mp first
          obtain ⟨_, _, rfl⟩ := List.mem_map.mp second
          show equals - 1 ≠ equals + 1
          omega

theorem equalsSpacing_once (options : SpacingOptions) (doc : Document)
    (formed : root.WellFormed source) :
    (spansOf (root.visits.flatMap (onOpening (equalsSpacing options doc)))).Nodup := by
  unfold equalsSpacing
  split
  · exact nodup_onOpening formed (fun _ _ _ _ => List.nodup_nil) fun _ _ _ _ _ said => by cases said
  · exact nodup_onAttributes formed fun c a formed named => equalsSpacing_points _ doc formed named

/-! ### Values of attributes -/

theorem warnAt_filter_filterMap (r : RuleName) (message : String) (q : Node → Bool)
    (f : Attribute → Option Node) (o : Opening) :
    warnAt r message ((o.attributes.filterMap f).filter q) =
      o.attributes.flatMap fun a => warnAt r message ((f a).toList.filter q) := by
  rw [warnAt, List.filterMap_eq_flatMap_toList, List.filter_flatMap, List.map_flatMap]
  rfl

theorem points_warnAt_toList (r : RuleName) (message : String) (q : Node → Bool) {c : Node}
    {value : Option Node} (seats : ∀ e ∈ value, q e = true → Seat isOpening c e.span.start) :
    Points isOpening c (warnAt r message (value.toList.filter q)) := by
  cases value with
  | none => exact Points.nil
  | some e =>
    rw [Option.toList_some, List.filter_singleton]
    cases holds : q e with
    | true => exact Points.one (seats e rfl holds)
    | false => exact Points.nil

/-- A rule points at no span twice when it points at the values of attributes, without parentheses,
that are expressions of some kind. -/
theorem valuesThat_once (r : RuleName) (message : String) {q : Node → Bool}
    (expression : ∀ n, q n = true → n.isExpr = true) (formed : root.WellFormed source) :
    (spansOf (root.visits.flatMap
      (onOpening fun o => warnAt r message (valuesThat q o)))).Nodup := by
  simp only [valuesThat, warnAt_filter_filterMap]
  refine nodup_onAttributes formed ?_
  intro c a formed named
  refine points_warnAt_toList r message q ?_
  intro e unwrapped holds
  obtain ⟨inner, given, rfl⟩ := Option.map_eq_some_iff.mp unwrapped
  have below := formed_of_expression? formed named given
  refine seat_of_expression isOpening_passes formed named given
    (seat_of_unwrapParens isOpening_passes below ?_)
  exact seat_expr_start (below.of_mem (unwrapParens_mem inner)).root (expression _ holds)

theorem noBind_once (doc : Document) (formed : root.WellFormed source) :
    (spansOf (root.visits.flatMap (onOpening (noBind doc)))).Nodup := by
  unfold noBind
  simp only [warnAt_filter_filterMap]
  refine nodup_onAttributes formed ?_
  intro c a formed named
  refine points_warnAt_toList _ _ _ ?_
  intro e given _
  exact seat_of_expression isOpening_passes formed named given
    (seat_expr_start (formed_of_expression? formed named given).root (expression?_eq_some given).1)

theorem stringSpan?_eq_some {a : Attribute} {span : Span} (view : a.stringSpan? = some span) :
    ∃ value, a.value = some value ∧ value.span = span := by
  unfold Attribute.stringSpan? at view
  split at view
  · rename_i literal
    cases view
    exact string?_eq_some literal
  · rename_i container _ _ braces _
    have given := (container?_eq_some braces).1
    split at view
    · cases view; exact ⟨container, given, rfl⟩
    · cases view; exact ⟨container, given, rfl⟩
    · cases view
  · cases view

theorem stringRef_once (r : RuleName) (formed : root.WellFormed source) :
    (spansOf (root.visits.flatMap (onOpening (stringRef r)))).Nodup := by
  refine nodup_onOpening formed ?_ ?_
  · intro n _ o _
    unfold stringRef
    split
    · exact List.nodup_singleton _
    · exact List.nodup_nil
  · intro n member o view d said
    unfold stringRef at said
    split at said
    · rename_i span found
      obtain rfl := List.mem_singleton.mp said
      obtain ⟨a, first, string⟩ := Option.bind_eq_some_iff.mp found
      obtain ⟨c, child, named⟩ := mem_attributes view (List.mem_of_find?_eq_some first)
      obtain ⟨value, given, rfl⟩ := stringSpan?_eq_some string
      exact ⟨c, child, seat_attribute_value isOpening_passes
        ((formed.of_mem member).child child) named given⟩
    · cases said

/-! ### Names and order -/

theorem banElements_once (options : BanElementsOptions) (doc : Document)
    (formed : root.WellFormed source) :
    (spansOf (root.visits.flatMap (onOpening (banElements options doc)))).Nodup := by
  refine nodup_onOpening formed ?_ ?_
  · intro n _ o _
    unfold banElements
    dsimp only
    split
    · exact List.nodup_nil
    · exact List.nodup_singleton _
  · intro n member o view d said
    obtain ⟨kind, name, rest, parts, rfl⟩ := opening?_eq_some view
    have child : name ∈ n.children := by rw [parts]; exact List.mem_cons_self
    unfold banElements at said
    dsimp only at said
    split at said
    · cases said
    · obtain rfl := List.mem_singleton.mp said
      exact ⟨name, child, seat_part_start (formed.of_mem member) (Or.inl kind) child⟩

/-- The first item out of order is pointed at by its span or by the span of its name. -/
theorem firstFailure_span {options : SortPropsOptions} {state : SortProps.State}
    {items : List AttributeItem} {d : Diagnostic}
    (failed : SortProps.firstFailure options state items = some d) :
    ∃ item ∈ items, d.span = item.span ∨ ∃ a, item = .named a ∧ d.span = a.nameSpan := by
  induction items generalizing state with
  | nil => cases failed
  | cons item items ih =>
    rw [SortProps.firstFailure] at failed
    split at failed
    · rename_i failure why
      cases failed
      refine ⟨item, List.mem_cons_self, ?_⟩
      cases grouped : SortProps.enterGroup options state item with
      | error e =>
        rw [grouped] at why
        cases why
        refine Or.inl ?_
        unfold SortProps.enterGroup at grouped
        split at grouped
        · cases grouped
        · dsimp only at grouped
          split at grouped
          · cases grouped
            rfl
          · cases grouped
      | ok next =>
        rw [grouped] at why
        change SortProps.enterName options next item = .error d at why
        cases item with
        | spread => cases why
        | named a =>
          unfold SortProps.enterName at why
          dsimp only at why
          split at why
          · cases why
            exact Or.inr ⟨a, rfl, rfl⟩
          · cases why
    · obtain ⟨found, later, spans⟩ := ih failed
      exact ⟨found, List.mem_cons_of_mem _ later, spans⟩

theorem sortProps_once (options : SortPropsOptions) (formed : root.WellFormed source) :
    (spansOf (root.visits.flatMap (onOpening (sortProps options)))).Nodup := by
  refine nodup_onOpening formed ?_ ?_
  · intro n _ o _
    unfold sortProps
    cases SortProps.firstFailure options {} o.items with
    | none => exact List.nodup_nil
    | some d => exact List.nodup_singleton _
  · intro n member o view d said
    obtain ⟨item, listed, spans⟩ := firstFailure_span (Option.mem_toList.mp said)
    obtain ⟨c, child, isItem⟩ := mem_items view listed
    have below := (formed.of_mem member).child child
    refine ⟨c, child, ?_⟩
    rcases spans with whole | ⟨a, rfl, name⟩
    · rw [whole, item_span isItem]
      exact seat_part_start (formed.of_mem member) (Or.inl (opening?_eq_some view).1) child
    · rw [name]
      exact seat_attribute_name isOpening_passes below isItem

end Rule

end JsxCheck
