import JsxCheck.Proofs.Lint.Walk
import JsxCheck.Proofs.Rule.TagsOnce

/-!
The rules on elements and fragments point at no span twice.

Most of them point at the element itself, and nothing in an element other than its opening tag starts
where the element does.
-/
namespace JsxCheck

open Node Visit

variable {source : Source} {root : Node}

/-! ### The element itself -/

/-- The node is an element, or a fragment without a name. -/
def Node.IsElementOrFragment (n : Node) : Prop :=
  n.form? = some .jsxElement ∨ n.form? = some .jsxFragment

theorem Node.IsElementOrFragment.plain {n : Node} (element : n.IsElementOrFragment) :
    n.kind.isSpelling = false ∧ n.kind ≠ .parameters ∧ n.kind.mayBeEmpty = false := by
  rcases element with form | form <;> rcases kind_of_form? form with kind | kind <;>
    rw [kind] <;> exact ⟨rfl, by decide, rfl⟩

/-- There is more to an element or a fragment than an element or a fragment in it. -/
theorem Node.IsElementOrFragment.span_ne {n m : Node} (formed : n.WellFormed source)
    (element : n.IsElementOrFragment) (below : m ∈ n.descendants)
    (inner : m.IsElementOrFragment) : m.span ≠ n.span := by
  intro same
  rcases element with form | form
  · have solid := (formed.formed (mem_preorder.mpr (Or.inr below))).nonempty inner.plain.2.2
    have opening : m.kind ≠ .jsxOpening := by
      rcases inner with form | form <;> rcases kind_of_form? form with kind | kind <;>
        rw [kind] <;> decide
    have later := start_lt_of_element formed form below opening solid
    rw [same] at later
    exact Nat.lt_irrefl _ later
  · obtain ⟨c, child, inside⟩ := mem_descendants.mp below
    have composed : n.kind.isComposed = true := by
      rcases kind_of_form? form with kind | kind <;> rw [kind] <;> rfl
    exact formed.root.composed composed c child (same ▸ span_within_extent_of_mem inside)

/-- A rule that points at most at the elements and fragments it looks at points at no span twice. -/
theorem nodup_onElements {f : Visit → List Diagnostic} (formed : root.WellFormed source)
    (own : ∀ v ∈ root.visits,
      f v = [] ∨ (v.node.IsElementOrFragment ∧ spansOf (f v) = [v.node.span])) :
    (spansOf (root.visits.flatMap f)).Nodup := by
  rw [spansOf, List.map_flatMap]
  refine nodup_of_own formed (fun n => IsElementOrFragment.plain) ?_ ?_
  · intro v member
    exact (own v member).imp (fun none => by rw [none, List.map_nil]) id
  · intro n member element m below inner
    exact element.span_ne (formed.of_mem member) below inner

/-- The same for a rule on elements that may look at their position. -/
theorem nodup_onElement {check : Visit → Element → List Diagnostic} (formed : root.WellFormed source)
    (own : ∀ v e, check v e = [] ∨ spansOf (check v e) = [e.span]) :
    (spansOf (root.visits.flatMap fun v => v.onElement (check v))).Nodup := by
  refine nodup_onElements formed ?_
  intro v _
  unfold onElement
  split
  · rename_i e view
    obtain ⟨form, span, _⟩ := element?_eq_some view
    exact (own v e).imp id fun one => ⟨Or.inl form, by rw [one, span]⟩
  · exact Or.inl rfl

namespace Rule

theorem selfClose_once (doc : Document) (formed : root.WellFormed source) :
    (spansOf (root.visits.flatMap (onElement (selfClose doc)))).Nodup := by
  refine nodup_onElement formed ?_
  intro _ e
  unfold selfClose
  split
  · exact Or.inl rfl
  · split
    · exact Or.inr rfl
    · exact Or.inl rfl

theorem spaceBeforeTrailingSlash_once (doc : Document) (formed : root.WellFormed source) :
    (spansOf (root.visits.flatMap (onElement (spaceBeforeTrailingSlash doc)))).Nodup := by
  refine nodup_onElement formed ?_
  intro _ e
  unfold spaceBeforeTrailingSlash
  split
  · dsimp only
    split
    · split
      · exact Or.inl rfl
      · exact Or.inr rfl
    · exact Or.inl rfl
  · exact Or.inl rfl

theorem wrapMulitlines_once (doc : Document) (formed : root.WellFormed source) :
    (spansOf (root.visits.flatMap fun v =>
      v.onElement fun e => wrapMulitlines doc e v.position)).Nodup := by
  refine nodup_onElement formed ?_
  intro v e
  unfold wrapMulitlines
  split
  · split
    · exact Or.inl rfl
    · exact Or.inr rfl
  · exact Or.inl rfl

theorem noUnnecessaryFragment_once (doc : Document) (formed : root.WellFormed source) :
    (spansOf (root.visits.flatMap fun v =>
      v.onElement (noUnnecessaryFragmentElement doc)
        ++ v.onFragment (noUnnecessaryFragment doc))).Nodup := by
  refine nodup_onElements formed ?_
  intro v _
  have group : ∀ span children, noUnnecessaryFragment doc span children = [] ∨
      spansOf (noUnnecessaryFragment doc span children) = [span] := by
    intro span children
    unfold noUnnecessaryFragment
    split
    · exact Or.inr rfl
    · exact Or.inl rfl
  cases view : v.node.element? with
  | some e =>
    -- An element is no fragment without a name.
    obtain ⟨form, span, _⟩ := element?_eq_some view
    have other : v.onFragment (noUnnecessaryFragment doc) = [] := by
      simp [onFragment, fragmentChildren?, form]
    rw [other, List.append_nil, onElement, view]
    dsimp only
    unfold noUnnecessaryFragmentElement
    split
    · split
      · exact Or.inr ⟨Or.inl form, by rw [← span]; rfl⟩
      · exact (group e.span e.children).imp id fun one => ⟨Or.inl form, by rw [one, span]⟩
    · exact Or.inl rfl
  | none =>
    rw [onElement, view]
    dsimp only
    rw [List.nil_append]
    unfold onFragment
    split
    · rename_i children fragment
      have form : v.node.form? = some .jsxFragment := by
        unfold fragmentChildren? at fragment
        split at fragment
        · assumption
        · cases fragment
      exact (group v.node.span children).imp id fun one => ⟨Or.inr form, one⟩
    · exact Or.inl rfl

end Rule

/-! ### Parts of elements -/

theorem Node.isJsxElement_plain {n : Node} (element : n.isJsxElement = true) :
    n.kind.isSpelling = false ∧ n.kind ≠ .parameters := by
  obtain ⟨_, _, _, _, spelling, parameters⟩ := element_plain (isJsxElement_iff.mp element)
  exact ⟨spelling, parameters⟩

theorem Node.Seat.seated_element {p : Node → Bool} {n c : Node} {k : Nat}
    (formed : n.WellFormed source) (form : n.form? = some .jsxElement) (child : c ∈ n.children)
    (seat : Seat p c k) (holds : p n = true) (behind : n.span.start < k) : Seated p n k := by
  obtain ⟨plain, unspelled, never, _⟩ := element_plain form
  have inside := seat.1.mono (formed.root.inside plain c child)
  exact seat.seated formed.root unspelled child (Or.inl never) holds ⟨behind, inside.2⟩

/-- What has its seat in a part of the opening tag is seated in the element. -/
theorem Node.Seat.seated_tag {p : Node → Bool} {n opening c : Node} {rest : List Node} {k : Nat}
    (formed : n.WellFormed source) (form : n.form? = some .jsxElement)
    (parts : n.children = opening :: rest) (passed : p opening = false)
    (child : c ∈ opening.children) (seat : Seat p c k) (holds : p n = true) : Seated p n k := by
  obtain ⟨kind, _, start, _⟩ := opening_of_element formed form parts
  have tag : opening ∈ n.children := by rw [parts]; exact List.mem_cons_self
  have formedTag := (formed.child tag).root
  have behind := formedTag.opens (by rw [kind]; rfl) c child
  have low := seat.1.1
  exact (seat.lift formedTag (by rw [kind]; rfl) child (Or.inl (by rw [kind]; rfl))
    passed).seated_element formed form tag holds (by omega)

theorem Node.isJsxElement_of_opening {n : Node} (kind : n.kind = .jsxOpening) :
    n.isJsxElement = false := by
  simp [isJsxElement, form?, kind]

namespace Rule

theorem preferFragment_once (options : PreferFragmentOptions) (formed : root.WellFormed source) :
    (spansOf (root.visits.flatMap (onElement (preferFragment options)))).Nodup := by
  rw [spansOf, List.map_flatMap]
  refine nodup_of_seated formed (fun n => isJsxElement_plain) ?_ ?_
  · intro v _
    unfold onElement
    split
    · unfold preferFragment
      split
      · split
        · exact List.nodup_singleton _
        · exact List.nodup_nil
      · exact List.nodup_nil
    · exact List.nodup_nil
  · intro v member s said
    have here := formed.of_mem (node_mem_preorder member)
    unfold onElement at said
    split at said
    · rename_i e view
      obtain ⟨form, _, tag, rest, parts, isTag, _⟩ := element?_eq_some view
      obtain ⟨kind, name, items, shape, opening⟩ := opening?_eq_some isTag
      have child : name ∈ tag.children := by rw [shape]; exact List.mem_cons_self
      have formedTag := here.child (by rw [parts]; exact List.mem_cons_self)
      have same : s = name.span := by
        unfold preferFragment at said
        split at said
        · split at said
          · rw [List.mem_singleton.mp said, opening]
            rfl
          · cases said
        · cases said
      rw [same]
      exact (seat_part_start formedTag (Or.inl kind) child).seated_tag here form parts
        (isJsxElement_of_opening kind) child (isJsxElement_iff.mpr form)
    · cases said

end Rule

/-! ### Texts to be translated -/

def Node.isTagOrElement (n : Node) : Bool := n.isOpening || n.isJsxElement

theorem Node.isTagOrElement_plain {n : Node} (either : n.isTagOrElement = true) :
    n.kind.isSpelling = false ∧ n.kind ≠ .parameters := by
  rcases Bool.or_eq_true_iff.mp either with opening | element
  · exact isOpening_plain opening
  · exact isJsxElement_plain element

theorem Node.isTagOrElement_passes : PassesAttributes isTagOrElement := by
  rintro n (kind | kind | kind) <;> simp [isTagOrElement, isOpening, isJsxElement, form?, kind]

namespace Rule

theorem shownValue?_eq_some {a : Attribute} {span : Span}
    (view : Translation.shownValue? a = some span) :
    ∃ value, a.value = some value ∧ value.span = span := by
  unfold Translation.shownValue? at view
  split at view
  · rename_i literal
    cases view
    exact string?_eq_some literal
  · rename_i container _ _ braces _
    split at view
    · cases view
      exact ⟨container, (container?_eq_some braces).1, rfl⟩
    · cases view
  · cases view

theorem shownChild?_eq_some {source : Source} {n : Node} {span : Span}
    (view : Translation.shownChild? source n = some span) :
    span = n.span ∧ (n.kind = .jsxText ∨ n.kind = .jsxContainer) := by
  unfold Translation.shownChild? at view
  split at view
  · split at view
    · cases view
    · cases view
      exact ⟨rfl, Or.inl rfl⟩
  · split at view
    · cases view
      exact ⟨rfl, Or.inr rfl⟩
    · cases view
  · cases view

/-- What is said of the attributes that users read is said of one attribute after the other. -/
theorem translatedAttributes_eq (o : Opening) :
    translatedAttributes o = o.attributes.flatMap fun a =>
      if Translation.isShown a.name then (Translation.shownValue? a).toList.map Translation.warning
      else [] := by
  unfold translatedAttributes
  rw [List.filterMap_eq_flatMap_toList, List.map_flatMap]
  induction o.attributes with
  | nil => rfl
  | cons a rest ih =>
    rw [List.flatMap_cons, ← ih, List.filter_cons]
    split
    · rw [List.flatMap_cons]
    · rw [List.nil_append]

theorem translatedAttributes_points {c : Node} {a : Attribute} (formed : c.WellFormed source)
    (named : c.attributeItem? = some (.named a)) :
    Points isTagOrElement c (if Translation.isShown a.name then
      (Translation.shownValue? a).toList.map Translation.warning else []) := by
  refine Points.ite fun _ => ?_
  cases shown : Translation.shownValue? a with
  | none => exact Points.nil
  | some span =>
    obtain ⟨value, given, rfl⟩ := shownValue?_eq_some shown
    exact Points.one (seat_attribute_value isTagOrElement_passes formed named given)

/-- A text or a container among the parts of an element has its seat where it starts. -/
theorem seat_shown {c : Node} (formed : c.Formed source)
    (kind : c.kind = .jsxText ∨ c.kind = .jsxContainer) :
    Seat isTagOrElement c c.span.start ∧ c.span.start < c.span.stop := by
  have nonempty := formed.nonempty (by rcases kind with kind | kind <;> rw [kind] <;> rfl)
  exact ⟨seat_start formed (by rcases kind with kind | kind <;> rw [kind] <;> rfl) nonempty, nonempty⟩

theorem useTranslation_once (doc : Document) (formed : root.WellFormed source) :
    (spansOf (root.visits.flatMap fun v =>
      v.onOpening translatedAttributes ++ v.onElement (translatedChildren doc))).Nodup := by
  rw [spansOf, List.map_flatMap]
  refine nodup_of_seated formed (fun n => isTagOrElement_plain) ?_ ?_
  · intro v member
    have here := formed.of_mem (node_mem_preorder member)
    unfold onOpening onElement
    cases view : v.node.opening? with
    | some o =>
      have none : v.node.element? = none := by
        simp [element?, form?, (opening?_eq_some view).1]
      rw [none]
      dsimp only
      rw [List.append_nil, translatedAttributes_eq]
      exact nodup_attributes here view fun c a => translatedAttributes_points
    | none =>
      dsimp only
      rw [List.nil_append]
      split
      · rename_i e view
        obtain ⟨form, _, tag, rest, parts, _, children, _⟩ := element?_eq_some view
        obtain ⟨_, unspelled, never, _⟩ := element_plain form
        have beside := here.root.parts_apart unspelled never
        rw [parts] at beside
        rw [translatedChildren, List.map_map, List.map_filterMap, children]
        refine List.pairwise_filterMap.mpr
          (((List.pairwise_cons.mp beside).2.sublist List.filter_sublist).imp_of_mem ?_)
        intro c d first second apart s shown s' shown'
        obtain ⟨_, view, rfl⟩ := Option.map_eq_some_iff.mp shown
        obtain ⟨_, view', rfl⟩ := Option.map_eq_some_iff.mp shown'
        obtain ⟨rfl, kind⟩ := shownChild?_eq_some view
        obtain ⟨rfl, _⟩ := shownChild?_eq_some view'
        have child : c ∈ v.node.children := by
          rw [parts]
          exact List.mem_cons_of_mem _ (List.mem_filter.mp first).1
        have solid := (seat_shown (here.child child).root kind).2
        exact (apart.within (span_within_extent c) (span_within_extent d)).ne solid
      · exact List.nodup_nil
  · intro v member s said
    have here := formed.of_mem (node_mem_preorder member)
    rw [List.map_append] at said
    rcases List.mem_append.mp said with said | said
    · unfold onOpening at said
      split at said
      · rename_i o view
        rw [translatedAttributes_eq] at said
        obtain ⟨d, told, rfl⟩ := List.mem_map.mp said
        obtain ⟨a, listed, told⟩ := List.mem_flatMap.mp told
        obtain ⟨c, child, named⟩ := mem_attributes view listed
        have kind := (opening?_eq_some view).1
        have seat := (translatedAttributes_points (here.child child) named).2 d told
        exact seat.seated_opening here kind child
          (Bool.or_eq_true_iff.mpr (Or.inl (isOpening_iff.mpr kind)))
      · cases said
    · unfold onElement at said
      split at said
      · rename_i e view
        obtain ⟨form, _, tag, rest, parts, _, children, _⟩ := element?_eq_some view
        rw [translatedChildren, List.map_map] at said
        obtain ⟨span, told, rfl⟩ := List.mem_map.mp said
        obtain ⟨c, listed, shown⟩ := List.mem_filterMap.mp told
        obtain ⟨rfl, kind⟩ := shownChild?_eq_some shown
        rw [children] at listed
        have child : c ∈ v.node.children := by
          rw [parts]
          exact List.mem_cons_of_mem _ (List.mem_filter.mp listed).1
        obtain ⟨seat, solid⟩ := seat_shown (here.child child).root kind
        have inner : c.kind ≠ .jsxOpening := by
          rcases kind with kind | kind <;> rw [kind] <;> decide
        exact seat.seated_element here form child
          (Bool.or_eq_true_iff.mpr (Or.inr (isJsxElement_iff.mpr form)))
          (start_lt_of_element here form (mem_descendants_of_child child) inner solid)
      · cases said

end Rule

end JsxCheck
