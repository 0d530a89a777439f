import JsxCheck.Proofs.Lint.KeptComments
import JsxCheck.Proofs.Lint.Positions
import JsxCheck.Proofs.Rule.SearchedTwice

/-!
Pairs of rules on one subject, of which one says more than the other.

The rules on binds and lambdas come in a narrow form, which looks at the value of an attribute itself,
and a wide one, which searches it. The rules on elements on several lines differ by the children of
elements. `check_variants_ordered` compares what the members of each pair report in a whole program.
-/
namespace JsxCheck

open Node Visit

/-! ### Where a rule points -/

namespace Config

/-- The spans that a rule reports in a program. -/
def pointed (c : Config) (doc : Document) (root : Node) (r : RuleName) : List Span :=
  spansOf ((c.check doc root).diagnostics.filter (·.rule == r.text))

variable {c : Config} {doc : Document} {root : Node} {r : RuleName}

theorem pointed_eq_flatMap (c : Config) (doc : Document) (root : Node) (r : RuleName) :
    c.pointed doc root r = root.visits.flatMap fun v => spansOf (c.say doc v v.position r) := by
  rw [pointed, filter_check_eq_flatMap, spansOf, List.map_flatMap]

/-- A rule that warns at parts of the tags points at these parts. -/
theorem mem_pointed_iff (parts : Opening → List Node) {message : String}
    (tells : ∀ options v position,
      r.check options doc v position = v.onOpening fun o => Rule.warnAt r message (parts o))
    {span : Span} :
    span ∈ c.pointed doc root r ↔ c.isEnabled r = true ∧
      ∃ n ∈ root.preorder, ∃ o ∈ n.opening?, ∃ x ∈ parts o, x.span = span := by
  rw [pointed_eq_flatMap, List.mem_flatMap, isEnabled, Option.isSome_iff_exists]
  constructor
  · rintro ⟨v, visited, pointed⟩
    obtain ⟨d, said, rfl⟩ := List.mem_map.mp pointed
    obtain ⟨options, set, said⟩ := mem_say_iff.mp said
    rw [tells] at said
    obtain ⟨o, view, said⟩ := mem_onOpening_iff.mp said
    obtain ⟨x, part, rfl⟩ := List.mem_map.mp said
    exact ⟨⟨options, set⟩, v.node, node_mem_preorder visited, o, view, x, part, rfl⟩
  · rintro ⟨⟨options, set⟩, n, inside, o, view, x, part, rfl⟩
    obtain ⟨v, visited, rfl⟩ := List.mem_map.mp inside
    refine ⟨v, visited, List.mem_map.mpr ⟨r.warning x.span message, mem_say_iff.mpr ?_, rfl⟩⟩
    refine ⟨options, set, ?_⟩
    rw [tells]
    exact mem_onOpening_iff.mpr ⟨o, view, List.mem_map_of_mem part⟩

end Config

/-! ### The value of an attribute and what is searched in it -/

/-- The value of an attribute is searched unless the attribute is left out. -/
theorem Opening.mem_searched_of_attribute {o : Opening} {a : Attribute} {value : Node}
    {leaveOut : Attribute → Bool} (listed : a ∈ o.attributes) (given : a.expression? = some value)
    (kept : leaveOut a = false) : value ∈ o.searched leaveOut := by
  obtain ⟨item, inTag, isAttribute⟩ := List.mem_filterMap.mp listed
  cases item with
  | spread => cases isAttribute
  | named b =>
    obtain rfl := Option.some.inj isAttribute
    refine List.mem_map.mpr ⟨(some b, value), List.mem_filter.mpr ⟨?_, by simp [kept]⟩, rfl⟩
    refine List.mem_flatMap.mpr ⟨_, inTag, ?_⟩
    exact List.mem_map.mpr ⟨value, Option.mem_toList.mpr given, rfl⟩

/-- A search that does not stop at parentheses comes to what stands in them. -/
theorem Node.Parenthesizes.reaches {p : Node → Bool} {value n : Node}
    (passes : ∀ s inner, p (mk (.expr .parenthesized) s [inner]) = false)
    (wrapped : value.Parenthesizes n) : Reaches p value n := by
  induction wrapped with
  | bare n => exact .here n
  | around s _ ih =>
    refine .down ?_ List.mem_cons_self ih
    rw [passes, Bool.and_false]

/-- An attribute in the tree is given a lambda, in any number of parentheses. -/
def Node.GivesLambda (root : Node) (a : Attribute) (span : Span) : Prop :=
  ∃ tag ∈ root.preorder, ∃ o ∈ tag.opening?, a ∈ o.attributes ∧
    ∃ value ∈ a.expression?, ∃ lambda, value.Parenthesizes lambda ∧
      lambda.isFunctionLike = true ∧ lambda.span = span

namespace Rule

theorem isCallWith_of_append {doc : Document} (front back : String) {n : Node}
    (isCall : isCallWith doc (front ++ back) n = true) : isCallWith doc front n = true := by
  obtain ⟨call, holds⟩ := Bool.and_eq_true_iff.mp isCall
  exact Bool.and_eq_true_iff.mpr ⟨call, containsText_of_append holds⟩

theorem mem_valuesThat_isFunctionLike_iff {o : Opening} {lambda : Node} :
    lambda ∈ valuesThat Node.isFunctionLike o ↔ lambda.isFunctionLike = true ∧
      ∃ a ∈ o.attributes, ∃ value ∈ a.expression?, value.Parenthesizes lambda := by
  simp only [valuesThat, List.mem_filter, List.mem_filterMap, Option.map_eq_some_iff, Option.mem_def]
  constructor
  · rintro ⟨⟨a, listed, value, given, rfl⟩, function⟩
    exact ⟨function, a, listed, value, given, parenthesizes_unwrapParens value⟩
  · rintro ⟨function, a, listed, value, given, wrapped⟩
    have bare : lambda.expr? ≠ some .parenthesized := by
      intro paren
      rw [Node.isFunctionLike, paren] at function
      cases function
    exact ⟨⟨a, listed, value, given, wrapped.unwrapParens_eq bare⟩, function⟩

end Rule

namespace Config

variable {narrow wide : Config} {doc : Document} {root : Node}

theorem pointed_noBind_subset (enabled : wide.isEnabled .jsxNoBindProps = true) :
    narrow.pointed doc root .jsxNoBind ⊆ wide.pointed doc root .jsxNoBindProps := by
  intro span reported
  obtain ⟨_, n, inside, o, view, call, told, rfl⟩ :=
    (mem_pointed_iff _ fun _ _ _ => rfl).mp reported
  obtain ⟨listed, isCall⟩ := List.mem_filter.mp told
  obtain ⟨a, named, given⟩ := List.mem_filterMap.mp listed
  have binds : Rule.isCallWith doc ".bind(" call = true :=
    Rule.isCallWith_of_append ".bind(" "this)" isCall
  -- The search stops at the value itself, before it could stop at a bind in it.
  have found : call ∈ call.matching (Rule.isCallWith doc ".bind(") :=
    mem_matching.mpr ⟨.here call, (expression?_eq_some given).1, binds⟩
  exact (mem_pointed_iff _ fun _ _ _ => rfl).mpr ⟨enabled, n, inside, o, view, call,
    Rule.mem_searchedValues.mpr ⟨call, Opening.mem_searched_of_attribute named given rfl, found⟩, rfl⟩

theorem mem_pointed_noLambda_iff (enabled : narrow.isEnabled .jsxNoLambda = true) {span : Span} :
    span ∈ narrow.pointed doc root .jsxNoLambda ↔ ∃ a, root.GivesLambda a span := by
  rw [mem_pointed_iff (Rule.valuesThat Node.isFunctionLike) fun _ _ _ => rfl]
  constructor
  · rintro ⟨_, n, inside, o, view, lambda, told, span⟩
    obtain ⟨function, a, listed, value, given, wrapped⟩ :=
      Rule.mem_valuesThat_isFunctionLike_iff.mp told
    exact ⟨a, n, inside, o, view, listed, value, given, lambda, wrapped, function, span⟩
  · rintro ⟨a, n, inside, o, view, listed, value, given, lambda, wrapped, function, span⟩
    exact ⟨enabled, n, inside, o, view, lambda, Rule.mem_valuesThat_isFunctionLike_iff.mpr
      ⟨function, a, listed, value, given, wrapped⟩, span⟩

/-- The search for lambdas passes the parentheses around one, and stops at no lambda before it. -/
theorem mem_pointed_noLambdaProps (enabled : wide.isEnabled .jsxNoLambdaProps = true)
    {a : Attribute} {span : Span} (gives : root.GivesLambda a span) (other : a.name ≠ "ref") :
    span ∈ wide.pointed doc root .jsxNoLambdaProps := by
  obtain ⟨n, inside, o, view, listed, value, given, lambda, wrapped, function, span⟩ := gives
  have searched : value ∈ o.searched (·.name == "ref") :=
    Opening.mem_searched_of_attribute listed given (beq_eq_false_iff_ne.mpr other)
  have found : lambda ∈ value.matching Node.isFunctionLike :=
    mem_matching.mpr ⟨wrapped.reaches fun _ _ => rfl, (Rule.isFunctionLike_plain function).1, function⟩
  exact (mem_pointed_iff _ fun _ _ _ => rfl).mpr ⟨enabled, n, inside, o, view, lambda,
    Rule.mem_searchedValues.mpr ⟨value, searched, found⟩, span⟩

end Config

/-! ### Elements on several lines -/

instance (v : Visit) : Decidable v.InElement :=
  inferInstanceAs (Decidable (∃ parent ∈ v.parent?, parent.form? = some .jsxElement))

/-- Elements of a program with one span are one element, visited once. -/
theorem Node.WellFormed.eq_of_element_span_eq {source : Source} {root : Node}
    (formed : root.WellFormed source) {v w : Visit} (visited : v ∈ root.visits)
    (visited' : w ∈ root.visits) (element : v.node.isJsxElement = true)
    (element' : w.node.isJsxElement = true) (same : v.node.span = w.node.span) : v = w := by
  let own : Visit → List Span := fun v => if v.node.isJsxElement then [v.node.span] else []
  have once : (root.visits.flatMap own).Nodup := by
    refine nodup_of_own formed (fun _ => IsElementOrFragment.plain) ?_ ?_
    · intro v _
      cases element : v.node.isJsxElement with
      | false => exact Or.inl (by simp [own, element])
      | true => exact Or.inr ⟨Or.inl (isJsxElement_iff.mp element), by simp [own, element]⟩
    · intro n inside isElement m below inner
      exact isElement.span_ne (formed.of_mem inside) below inner
  refine visit_eq_of_nodup once visited visited' (s := v.node.span) ?_ ?_
  · simp [own, element]
  · simp [own, element', same]

namespace Rule

def notWrappedMessage : String := "Multiline JSX elements must be wrapped in parentheses"

/-- The rules on elements on several lines differ at the children of elements only. -/
theorem spans_notWrapped (doc : Document) (e : Element) (position : Position) :
    spansOf ((wrapMultiline doc e position).filter (·.message == notWrappedMessage)) =
      if position = .child then [] else spansOf (wrapMulitlines doc e position) := by
  unfold wrapMultiline wrapMulitlines
  cases doc.isMultiline e.span with
  | false => simp
  | true =>
    cases position with
    | child => rfl
    | other => rfl
    | parenthesized paren =>
      simp only [if_true, reduceCtorEq, if_false]
      split <;> split <;> rfl

end Rule

namespace Config

/-- The spans of the elements that `jsx-wrap-multiline` reports as not wrapped. -/
def notWrapped (c : Config) (doc : Document) (root : Node) : List Span :=
  spansOf ((c.check doc root).diagnostics.filter fun d =>
    d.message == Rule.notWrappedMessage && d.rule == RuleName.jsxWrapMultiline.text)

/-- The spans that a rule reports of nodes that are no parts of elements. -/
def pointedOutside (c : Config) (doc : Document) (root : Node) (r : RuleName) : List Span :=
  spansOf (root.visits.flatMap fun v => if v.InElement then [] else c.say doc v v.position r)

variable {narrow wide : Config} {doc : Document} {root : Node}

theorem notWrapped_eq_pointedOutside (enabled : narrow.isEnabled .jsxWrapMultiline = true)
    (enabled' : wide.isEnabled .jsxWrapMulitlines = true) :
    narrow.notWrapped doc root = wide.pointedOutside doc root .jsxWrapMulitlines := by
  obtain ⟨_, set⟩ := Option.isSome_iff_exists.mp enabled
  obtain ⟨_, set'⟩ := Option.isSome_iff_exists.mp enabled'
  rw [notWrapped, ← List.filter_filter, filter_check_eq_flatMap, List.filter_flatMap, pointedOutside,
    spansOf, spansOf, List.map_flatMap, List.map_flatMap]
  refine List.flatMap_congr fun v _ => ?_
  rw [say, set, say, set']
  change spansOf ((v.onElement fun e => Rule.wrapMultiline doc e v.position).filter _) =
    spansOf (if v.InElement then [] else v.onElement fun e => Rule.wrapMulitlines doc e v.position)
  unfold onElement
  cases view : v.node.element? with
  | none => simp
  | some e =>
    have element := isJsxElement_iff.mpr (element?_eq_some view).1
    dsimp only
    rw [Rule.spans_notWrapped]
    simp only [position_eq_child_iff element]
    split <;> rfl

theorem mem_pointedOutside_wrapMulitlines_iff (formed : root.WellFormed doc.source) {span : Span} :
    span ∈ wide.pointedOutside doc root .jsxWrapMulitlines ↔
      span ∈ wide.pointed doc root .jsxWrapMulitlines ∧
        ¬ ∃ v ∈ root.visits, v.node.isJsxElement = true ∧ v.InElement ∧ v.node.span = span := by
  have own : ∀ v, ∀ d ∈ wide.say doc v v.position .jsxWrapMulitlines,
      v.node.isJsxElement = true ∧ d.span = v.node.span := by
    intro v d said
    obtain ⟨_, _, said⟩ := mem_say_iff.mp said
    obtain ⟨e, view, said⟩ := mem_onElement_iff.mp said
    obtain ⟨form, same, _⟩ := element?_eq_some view
    refine ⟨isJsxElement_iff.mpr form, ?_⟩
    unfold Rule.wrapMulitlines at said
    split at said
    · split at said
      · cases said
      · rw [List.mem_singleton.mp said, ← same]
        rfl
    · cases said
  simp only [pointedOutside, pointed_eq_flatMap, spansOf, List.map_flatMap, List.mem_flatMap]
  constructor
  · rintro ⟨v, visited, told⟩
    split at told
    · cases told
    · rename_i outside
      refine ⟨⟨v, visited, told⟩, ?_⟩
      rintro ⟨w, visited', element', inside, same⟩
      obtain ⟨d, said, rfl⟩ := List.mem_map.mp told
      obtain ⟨element, span⟩ := own v d said
      -- A child of an element with this span would be the element that is reported.
      obtain rfl := formed.eq_of_element_span_eq visited' visited element' element (same.trans span)
      exact outside inside
  · rintro ⟨⟨v, visited, told⟩, apart⟩
    refine ⟨v, visited, ?_⟩
    obtain ⟨d, said, rfl⟩ := List.mem_map.mp told
    obtain ⟨element, span⟩ := own v d said
    rw [if_neg fun inside => apart ⟨v, visited, element, inside, span.symm⟩]
    exact told

/-- The rules that come in pairs are ordered in every program, whichever configurations run them. What
the narrow rule on binds reports, the wide one reports. The narrow rule on lambdas reports the lambdas
that attributes are given, and the wide one reports each of these but those given to `ref`. What
`jsx-wrap-multiline` reports as not wrapped is, in the same order, what `jsx-wrap-mulitlines` reports of
elements that are no children of elements; as sets of spans of a well-formed program, it is what
`jsx-wrap-mulitlines` reports without the spans of children of elements. -/
theorem check_variants_ordered (narrow wide : Config) (doc : Document) (root : Node) :
    (wide.isEnabled .jsxNoBindProps = true →
      narrow.pointed doc root .jsxNoBind ⊆ wide.pointed doc root .jsxNoBindProps) ∧
    (narrow.isEnabled .jsxNoLambda = true → ∀ span,
      span ∈ narrow.pointed doc root .jsxNoLambda ↔ ∃ a, root.GivesLambda a span) ∧
    (wide.isEnabled .jsxNoLambdaProps = true → ∀ a span, root.GivesLambda a span → a.name ≠ "ref" →
      span ∈ wide.pointed doc root .jsxNoLambdaProps) ∧
    (narrow.isEnabled .jsxWrapMultiline = true → wide.isEnabled .jsxWrapMulitlines = true →
      narrow.notWrapped doc root = wide.pointedOutside doc root .jsxWrapMulitlines ∧
      (root.WellFormed doc.source → ∀ span, span ∈ narrow.notWrapped doc root ↔
        span ∈ wide.pointed doc root .jsxWrapMulitlines ∧
          ¬ ∃ v ∈ root.visits, v.node.isJsxElement = true ∧ v.InElement ∧ v.node.span = span)) := by
  refine ⟨pointed_noBind_subset, fun enabled _ => mem_pointed_noLambda_iff enabled,
    fun enabled _ _ => mem_pointed_noLambdaProps enabled, fun enabled enabled' => ?_⟩
  have outside : narrow.notWrapped doc root = wide.pointedOutside doc root .jsxWrapMulitlines :=
    notWrapped_eq_pointedOutside enabled enabled'
  refine ⟨outside, fun formed span => ?_⟩
  rw [outside]
  exact mem_pointedOutside_wrapMulitlines_iff formed

/-- An element on two lines that is given a lambda and a bind, with a child on two lines. -/
def variantsText : String := "<a b=\x7b(()=>1)\x7d c=\x7bf.bind(this)\x7d>\n<d\n/></a>"

/-- The wide rules alone run. -/
def wideVariants : Config :=
  ((empty.enable .jsxNoBindProps).enable .jsxNoLambdaProps).enable .jsxWrapMulitlines

set_option maxRecDepth 100000 in
theorem check_variants_ordered_of_variantsText :
    ∃ program, Program.parse ⟨variantsText⟩ .tsx = .ok program ∧
      program.root.WellFormed ⟨variantsText⟩ ∧
      let doc := Document.ofText variantsText .tsx none program.comments
      ⟨18, 30⟩ ∈ wideVariants.pointed doc program.root .jsxNoBindProps ∧
      ⟨7, 12⟩ ∈ wideVariants.pointed doc program.root .jsxNoLambdaProps ∧
      wideVariants.pointed doc program.root .jsxWrapMulitlines = [⟨0, 42⟩, ⟨33, 38⟩] ∧
      ⟨0, 42⟩ ∈ recommended.notWrapped doc program.root ∧
      ⟨33, 38⟩ ∉ recommended.notWrapped doc program.root := by
  have parsed : ∃ program, Program.parse ⟨variantsText⟩ .tsx = .ok program ∧
      let doc := Document.ofText variantsText .tsx none program.comments
      program.root.WellFormed ⟨variantsText⟩ ∧
      ⟨18, 30⟩ ∈ recommended.pointed doc program.root .jsxNoBind ∧
      (∃ tag ∈ program.root.preorder, ∃ o ∈ tag.opening?, ∃ a ∈ o.attributes, a.name ≠ "ref" ∧
        ∃ value ∈ a.expression?, value.unwrapParens.isFunctionLike = true ∧
          value.unwrapParens.span = ⟨7, 12⟩) ∧
      wideVariants.pointed doc program.root .jsxWrapMulitlines = [⟨0, 42⟩, ⟨33, 38⟩] ∧
      (¬ ∃ v ∈ program.root.visits, v.node.isJsxElement = true ∧ v.InElement ∧ v.node.span = ⟨0, 42⟩) ∧
      ∃ v ∈ program.root.visits, v.node.isJsxElement = true ∧ v.InElement ∧ v.node.span = ⟨33, 38⟩ :=
    Program.exists_parse (by decide +kernel)
  obtain ⟨program, parse, formed, bound, gives, multiline, outside, child⟩ := parsed
  obtain ⟨tag, inside, o, view, a, listed, other, value, given, function, span⟩ := gives
  obtain ⟨binds, _, lambdas, wraps⟩ := check_variants_ordered recommended wideVariants
    (.ofText variantsText .tsx none program.comments) program.root
  have unwrapped := (wraps rfl rfl).2 formed
  refine ⟨program, parse, formed, binds rfl bound, lambdas rfl a _ ?_ other, multiline,
    (unwrapped _).mpr ⟨?_, outside⟩, fun reported => ((unwrapped _).mp reported).2 child⟩
  · exact ⟨tag, inside, o, view, listed, value, given, _, parenthesizes_unwrapParens value, function,
      span⟩
  · rw [multiline]
    exact List.mem_cons_self

end Config

end JsxCheck
