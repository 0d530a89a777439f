import JsxCheck.Proofs.Syntax.Formed

/-!
What the views of elements show of a tree.

Each view is traced back to the nodes that it reads, with the spans of the parts in their places: the
items of an opening tag lie beside each other behind its `<`, the value of an attribute behind its
name, and the tags and children of an element beside each other.
-/
namespace JsxCheck

namespace Node

variable {source : Source} {n : Node}

/-! ### Opening tags and attributes -/

theorem opening?_eq_some {o : Opening} (view : n.opening? = some o) :
    n.kind = .jsxOpening ∧ ∃ name rest, n.children = name :: rest ∧
      o = ⟨n.span, name, rest.filterMap attributeItem?⟩ := by
  unfold opening? at view
  split at view
  · cases view
    exact ⟨rfl, _, _, rfl, rfl⟩
  · cases view

theorem attributeItem?_eq_named {a : Attribute} (view : n.attributeItem? = some (.named a)) :
    n.kind = .jsxAttribute ∧ ∃ name value, n.children = name :: value ∧
      a = ⟨n.span, name.tagName, name.span, value.head?⟩ := by
  unfold attributeItem? at view
  split at view
  · cases view
    exact ⟨rfl, _, _, rfl, rfl⟩
  · cases view
  · cases view

theorem attributeItem?_eq_spread {s : Span} {argument : Node}
    (view : n.attributeItem? = some (.spread s argument)) :
    n.kind = .jsxSpreadAttribute ∧ n.children = [argument] ∧ s = n.span := by
  unfold attributeItem? at view
  split at view
  · cases view
  · cases view
    exact ⟨rfl, rfl, rfl⟩
  · cases view

theorem item_span {item : AttributeItem} (view : n.attributeItem? = some item) :
    item.span = n.span := by
  cases item with
  | named a =>
    obtain ⟨_, _, _, _, rfl⟩ := attributeItem?_eq_named view
    rfl
  | spread s argument =>
    obtain ⟨_, _, rfl⟩ := attributeItem?_eq_spread view
    rfl

theorem mem_items {o : Opening} {item : AttributeItem} (view : n.opening? = some o)
    (member : item ∈ o.items) : ∃ c ∈ n.children, c.attributeItem? = some item := by
  obtain ⟨_, name, rest, parts, rfl⟩ := opening?_eq_some view
  obtain ⟨c, later, shape⟩ := List.mem_filterMap.mp member
  exact ⟨c, by rw [parts]; exact List.mem_cons_of_mem _ later, shape⟩

theorem mem_attributes {o : Opening} {a : Attribute} (view : n.opening? = some o)
    (member : a ∈ o.attributes) : ∃ c ∈ n.children, c.attributeItem? = some (.named a) := by
  obtain ⟨item, inside, named⟩ := List.mem_filterMap.mp member
  cases item with
  | named b => cases named; exact mem_items view inside
  | spread => cases named

theorem Formed.items_pairwise {o : Opening} {relation : AttributeItem → AttributeItem → Prop}
    (formed : n.Formed source) (view : n.opening? = some o)
    (each : ∀ c ∈ n.children, ∀ d ∈ n.children, ∀ i j, c.attributeItem? = some i →
      d.attributeItem? = some j → c.extent.Apart d.extent → relation i j) :
    o.items.Pairwise relation := by
  obtain ⟨kind, name, rest, parts, rfl⟩ := opening?_eq_some view
  have beside := formed.parts_apart (by rw [kind]; rfl) (by rw [kind]; rfl)
  rw [parts] at beside
  refine List.pairwise_filterMap.mpr ((List.pairwise_cons.mp beside).2.imp_of_mem ?_)
  intro c d first second apart i isItem j isItem'
  have member : ∀ m ∈ rest, m ∈ n.children := fun m later => by
    rw [parts]
    exact List.mem_cons_of_mem _ later
  exact each c (member c first) d (member d second) i j isItem isItem' apart

theorem Formed.attributes_pairwise {o : Opening} {relation : Attribute → Attribute → Prop}
    (formed : n.Formed source) (view : n.opening? = some o)
    (each : ∀ c ∈ n.children, ∀ d ∈ n.children, ∀ a b, c.attributeItem? = some (.named a) →
      d.attributeItem? = some (.named b) → c.extent.Apart d.extent → relation a b) :
    o.attributes.Pairwise relation := by
  refine List.pairwise_filterMap.mpr (formed.items_pairwise view ?_)
  intro c first d second i j isItem isItem' apart a isNamed b isNamed'
  cases i with
  | spread => cases isNamed
  | named a' =>
    cases j with
    | spread => cases isNamed'
    | named b' =>
      cases isNamed
      cases isNamed'
      exact each c first d second a b isItem isItem' apart

theorem container?_eq_some {a : Attribute} {container : Node}
    (view : a.container? = some container) :
    a.value = some container ∧ container.kind = .jsxContainer := by
  obtain ⟨value, given, shape⟩ := Option.bind_eq_some_iff.mp view
  split at shape
  · cases shape
    exact ⟨given, rfl⟩
  · cases shape

theorem expression?_eq_some {a : Attribute} {e : Node} (view : a.expression? = some e) :
    e.isExpr = true ∧ ∃ container, a.value = some container ∧
      container.kind = .jsxContainer ∧ container.children = [e] := by
  obtain ⟨value, given, shape⟩ := Option.bind_eq_some_iff.mp view
  split at shape
  · split at shape
    · cases shape
      exact ⟨‹_›, _, given, rfl, rfl⟩
    · cases shape
  · cases shape

theorem value_mem {a : Attribute} {value : Node} (named : n.attributeItem? = some (.named a))
    (given : a.value = some value) : n.kind = .jsxAttribute ∧ value ∈ n.children := by
  obtain ⟨kind, name, values, parts, rfl⟩ := attributeItem?_eq_named named
  exact ⟨kind, by rw [parts]; exact List.mem_cons_of_mem _ (List.mem_of_head? given)⟩

theorem formed_of_expression? {a : Attribute} {e : Node} (formed : n.WellFormed source)
    (named : n.attributeItem? = some (.named a)) (given : a.expression? = some e) :
    e.WellFormed source := by
  obtain ⟨_, container, held, _, content⟩ := expression?_eq_some given
  exact (formed.child (value_mem named held).2).child (by rw [content]; exact List.mem_cons_self)

theorem unwrapParens_mem (e : Node) : e.unwrapParens ∈ e.preorder := by
  fun_induction unwrapParens e with
  | case1 s inner ih => exact preorder_trans ih (mem_preorder_of_child List.mem_cons_self)
  | case2 => exact self_mem_preorder _

/-- The second node in any number of parentheses. -/
inductive Parenthesizes : Node → Node → Prop where
  | bare (n : Node) : Parenthesizes n n
  | around {inner n : Node} (s : Span) :
    Parenthesizes inner n → Parenthesizes (mk (.expr .parenthesized) s [inner]) n

theorem parenthesizes_unwrapParens (e : Node) : e.Parenthesizes e.unwrapParens := by
  fun_induction unwrapParens e with
  | case1 s inner ih => exact .around s ih
  | case2 n _ => exact .bare n

theorem Parenthesizes.unwrapParens_eq {e : Node} (wrapped : e.Parenthesizes n)
    (bare : n.expr? ≠ some .parenthesized) : e.unwrapParens = n := by
  induction wrapped with
  | bare n =>
    rw [unwrapParens.eq_def]
    split
    · exact absurd rfl bare
    · rfl
  | around s _ ih => rw [unwrapParens, ih bare]

/-! ### Elements -/

theorem element?_eq_some {e : Element} (view : n.element? = some e) :
    n.form? = some .jsxElement ∧ e.span = n.span ∧ ∃ first rest, n.children = first :: rest ∧
      first.opening? = some e.opening ∧ e.children = rest.filter (!·.isClosing) ∧
      e.closing = rest.find? isClosing := by
  unfold element? at view
  split at view
  · rename_i first rest form parts
    obtain ⟨opening, isOpening, same⟩ := Option.bind_eq_some_iff.mp view
    cases same
    exact ⟨form, rfl, first, rest, parts, isOpening, rfl, rfl⟩
  · cases view

theorem kind_of_form? {form : Expr} (view : n.form? = some form) :
    n.kind = .expr form ∨ n.kind = .exprPart form := by
  unfold form? at view
  split at view
  · rename_i kind
    cases view
    exact Or.inl kind
  · rename_i kind
    cases view
    exact Or.inr kind
  · cases view

theorem kind_of_isExpr (expression : n.isExpr = true) : ∃ form, n.kind = .expr form := by
  unfold isExpr expr? at expression
  split at expression
  · exact ⟨_, ‹_›⟩
  · cases expression

/-- Parentheses stand in front of and behind what they hold. -/
theorem Formed.inside_parens {paren : Node} (formed : paren.Formed source)
    (form : paren.form? = some .parenthesized) (child : n ∈ paren.children) :
    paren.span.start < n.span.start ∧ n.span.stop < paren.span.stop := by
  have kind : paren.kind.opens = true ∧ paren.kind.closes = true := by
    rcases kind_of_form? form with kind | kind <;> rw [kind] <;> exact ⟨rfl, rfl⟩
  have before := formed.opens kind.1 n child
  have after := formed.closes kind.2 n child
  have within := span_within_extent n
  exact ⟨Nat.lt_of_lt_of_le before within.1, Nat.lt_of_le_of_lt within.2 after⟩

theorem isJsxElement_iff : n.isJsxElement = true ↔ n.form? = some .jsxElement := by
  rw [isJsxElement, beq_iff_eq]

theorem element_plain (form : n.form? = some .jsxElement) :
    n.kind.mayBeDecorated = false ∧ n.kind.mayRespell = false ∧ n.kind.mayTakeThis = false ∧
      n.kind.mayBeEmpty = false ∧ n.kind.isSpelling = false ∧ n.kind ≠ .parameters := by
  rcases kind_of_form? form with kind | kind <;> rw [kind] <;>
    exact ⟨rfl, rfl, rfl, rfl, rfl, by decide⟩

/-- An element that parsing makes has an opening tag. -/
theorem Formed.exists_element? (formed : n.Formed source) (form : n.form? = some .jsxElement) :
    ∃ e, n.element? = some e := by
  have parts := formed.element form
  unfold element?
  rw [form]
  cases shape : n.children with
  | nil => rw [shape] at parts; exact parts.elim
  | cons first rest =>
    rw [shape] at parts
    obtain ⟨opening, isOpening⟩ := Option.isSome_iff_exists.mp parts.1
    dsimp only
    rw [isOpening]
    exact ⟨_, rfl⟩

/-- An element starts with its opening tag, and its other parts follow. -/
theorem Formed.behind_opening {first w : Node} {rest : List Node} (formed : n.Formed source)
    (form : n.form? = some .jsxElement) (parts : n.children = first :: rest)
    {c : Node} (later : c ∈ rest)
    (inside : w ∈ c.preorder) (solid : w.span.start < w.span.stop) :
    first.span.stop ≤ w.span.start := by
  have shape := formed.element form
  rw [parts] at shape
  obtain ⟨_, start, _⟩ := shape
  have plain := element_plain form
  have within := formed.within_span plain.1
    (preorder_trans inside (mem_preorder_of_child (parts ▸ List.mem_cons_of_mem _ later)))
  have beside := formed.parts_apart plain.2.1 plain.2.2.1
  rw [parts] at beside
  have apart := (List.pairwise_cons.mp beside).1 c later
  rcases apart.within (span_within_extent first) (span_within_extent_of_mem inside) with
    before | after
  · exact before
  · have low := within.1
    omega

theorem opening_of_element {opening : Node} {rest : List Node} (formed : n.WellFormed source)
    (form : n.form? = some .jsxElement) (parts : n.children = opening :: rest) :
    opening.kind = .jsxOpening ∧ opening.children ≠ [] ∧
      opening.span.start = n.span.start ∧ opening.span.start < opening.span.stop ∧
      opening.span.Within n.span := by
  have shape := formed.root.element form
  rw [parts] at shape
  obtain ⟨o, view⟩ := Option.isSome_iff_exists.mp shape.1
  obtain ⟨kind, name, items, open_, _⟩ := opening?_eq_some view
  have child : opening ∈ n.children := by rw [parts]; exact List.mem_cons_self
  have plain := (element_plain form).1
  exact ⟨kind, by rw [open_]; exact List.cons_ne_nil _ _, shape.2.1,
    (formed.child child).root.nonempty (by rw [kind]; rfl),
    formed.root.within_span plain (mem_preorder_of_child child)⟩

/-- The end of a tag that closes itself follows all that is in the tag. -/
theorem slash_of_element {opening : Node} {rest : List Node} (formed : n.WellFormed source)
    (form : n.form? = some .jsxElement) (parts : n.children = opening :: rest)
    (open_ : (rest.find? isClosing).isNone = true) :
    opening.span.stop = n.span.stop ∧
      ∀ c ∈ opening.children, c.extent.stop ≤ n.span.stop - 2 ∧ n.span.start + 2 ≤ n.span.stop := by
  have shape := formed.root.element form
  rw [parts] at shape
  obtain ⟨same, room⟩ := shape.2.2 open_
  refine ⟨same, ?_⟩
  intro c child
  obtain ⟨kind, _, start, _, _⟩ := opening_of_element formed form parts
  have formedOpening : opening.WellFormed source :=
    formed.child (by rw [parts]; exact List.mem_cons_self)
  have after := formedOpening.root.opens (by rw [kind]; rfl) c child
  have ordered := (formedOpening.child child).root.ordered
  have within := span_within_extent c
  have space := room c child
  have low := within.1
  have high := within.2
  omega

/-- All that is in an element, other than its opening tag, starts behind it. -/
theorem start_lt_of_element {m : Node} (formed : n.WellFormed source)
    (form : n.form? = some .jsxElement) (below : m ∈ n.descendants)
    (inner : m.kind ≠ .jsxOpening) (solid : m.span.start < m.span.stop) :
    n.span.start < m.span.start := by
  obtain ⟨c, child, inside⟩ := mem_descendants.mp below
  cases parts : n.children with
  | nil => rw [parts] at child; cases child
  | cons opening rest =>
    obtain ⟨kind, _, start, nonempty, _⟩ := opening_of_element formed form parts
    rw [parts] at child
    rcases List.mem_cons.mp child with rfl | later
    · rcases mem_preorder.mp inside with rfl | deeper
      · exact absurd kind inner
      · obtain ⟨part, inOpening, inPart⟩ := mem_descendants.mp deeper
        have formedOpening := (formed.child (by rw [parts]; exact List.mem_cons_self)).root
        have after := formedOpening.opens (by rw [kind]; rfl) part inOpening
        have low := (span_within_extent_of_mem inPart).1
        omega
    · have behind := formed.root.behind_opening form parts later inside solid
      omega

theorem isClosing_iff : n.isClosing = true ↔ n.kind = .jsxClosing := by
  cases n with
  | mk kind s cs => cases kind <;> simp [isClosing, kind]

end Node

end JsxCheck
