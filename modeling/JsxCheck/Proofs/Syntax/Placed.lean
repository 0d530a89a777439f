import JsxCheck.Proofs.Source.Boundaries
import JsxCheck.Proofs.Syntax.Views

/-!
Where the nodes of a tree stand in a text.

A tree is well placed in a text when every span lies in the text, splits no character and covers the
parts of its node. It is a tree of that text when tags and braces have their tokens where their spans
end. From the two follows where the parts of attributes and elements can be cut out.
-/
namespace JsxCheck

instance (s : Source) (span : Span) : Decidable (s.Sliceable span) :=
  decidable_of_iff _ (s.sliceable_iff span).symm

namespace Kind

/-- Braces around a value, or around a spread. -/
def isBraced : Kind → Bool
  | jsxContainer | jsxSpreadAttribute | jsxSpreadChild => true
  | _ => false

end Kind

namespace Node

/-- The span of a node lies in a text, splits no character and covers the parts of the node. -/
structure Placed (source : Source) (n : Node) : Prop where
  sliceable : source.Sliceable n.span
  inside : n.kind.mayBeDecorated = false → ∀ c ∈ n.children, c.span.Within n.span

/-- Braces and opening tags have their tokens in a text, where their spans start and end, and the parts
of an element follow each other. -/
structure Delimited (source : Source) (n : Node) : Prop where
  braces : n.kind.isBraced = true →
    source.byte? n.span.start = some 123 ∧ source.byte? (n.span.stop - 1) = some 125
  bracket : n.kind = .jsxOpening →
    source.byte? (n.span.stop - 1) = some 62 ∧ ∀ c ∈ n.children, c.span.stop < n.span.stop
  parts : n.form? = some .jsxElement →
    n.children.Pairwise fun a b => a.span.stop ≤ b.span.start

instance (source : Source) (n : Node) : Decidable (n.Placed source) :=
  decidable_of_iff
    (source.Sliceable n.span
      ∧ (n.kind.mayBeDecorated = false → ∀ c ∈ n.children, c.span.Within n.span))
    ⟨fun ⟨a, b⟩ => ⟨a, b⟩, fun ⟨a, b⟩ => ⟨a, b⟩⟩

instance (source : Source) (n : Node) : Decidable (n.Delimited source) :=
  decidable_of_iff
    ((n.kind.isBraced = true →
        source.byte? n.span.start = some 123 ∧ source.byte? (n.span.stop - 1) = some 125)
      ∧ (n.kind = .jsxOpening →
          source.byte? (n.span.stop - 1) = some 62 ∧ ∀ c ∈ n.children, c.span.stop < n.span.stop)
      ∧ (n.form? = some .jsxElement →
          n.children.Pairwise fun a b => a.span.stop ≤ b.span.start))
    ⟨fun ⟨a, b, c⟩ => ⟨a, b, c⟩, fun ⟨a, b, c⟩ => ⟨a, b, c⟩⟩

/-- All nodes of a tree are placed in a text. -/
def WellPlaced (source : Source) (root : Node) : Prop := ∀ n ∈ root.preorder, n.Placed source

/-- All nodes of a tree have their tokens in a text. -/
def WellDelimited (source : Source) (root : Node) : Prop := ∀ n ∈ root.preorder, n.Delimited source

instance (source : Source) (root : Node) : Decidable (root.WellPlaced source) :=
  inferInstanceAs (Decidable (∀ n ∈ root.preorder, n.Placed source))

instance (source : Source) (root : Node) : Decidable (root.WellDelimited source) :=
  inferInstanceAs (Decidable (∀ n ∈ root.preorder, n.Delimited source))

variable {source : Source} {n : Node}

theorem WellPlaced.of_mem {root : Node} (placed : root.WellPlaced source)
    (inside : n ∈ root.preorder) : n.WellPlaced source :=
  fun m below => placed m (preorder_trans below inside)

theorem WellDelimited.of_mem {root : Node} (delimited : root.WellDelimited source)
    (inside : n ∈ root.preorder) : n.WellDelimited source :=
  fun m below => delimited m (preorder_trans below inside)

theorem WellPlaced.root (placed : n.WellPlaced source) : n.Placed source :=
  placed n n.self_mem_preorder

theorem WellDelimited.root (delimited : n.WellDelimited source) : n.Delimited source :=
  delimited n n.self_mem_preorder

theorem WellPlaced.child {c : Node} (placed : n.WellPlaced source) (child : c ∈ n.children) :
    c.WellPlaced source := placed.of_mem (mem_preorder_of_child child)

theorem WellDelimited.child {c : Node} (delimited : n.WellDelimited source)
    (child : c ∈ n.children) : c.WellDelimited source :=
  delimited.of_mem (mem_preorder_of_child child)

/-- The text can be cut between braces and what stands in them. -/
theorem Delimited.isBoundary_braces (delimited : n.Delimited source) (braced : n.kind.isBraced = true) :
    source.isBoundary (n.span.start + 1) = true ∧ source.isBoundary (n.span.stop - 1) = true := by
  obtain ⟨opened, closed⟩ := delimited.braces braced
  exact ⟨(Source.isBoundary_of_byte? opened (by decide)).2,
    (Source.isBoundary_of_byte? closed (by decide)).1⟩

end Node

/-! ### Attributes and elements -/

/-- The name of an attribute and its value can be cut out of a text, as can all behind the name. -/
structure Attribute.Placed (source : Source) (a : Attribute) : Prop where
  sliceable : source.Sliceable a.span
  name : source.Sliceable a.nameSpan
  inside : a.nameSpan.stop ≤ a.span.stop
  value : ∀ value ∈ a.value, source.Sliceable value.span

/-- The names in the tags of an element can be cut out of a text, as can all from the end of the
opening tag to the end of the closing tag, which follows it. -/
structure Element.Placed (source : Source) (e : Element) : Prop where
  name : source.Sliceable e.opening.name.span
  nameInside : e.opening.name.span.stop < e.opening.span.stop
  bracket : source.isBoundary (e.opening.span.stop - 1) = true
  closing : ∀ closing ∈ e.closing, source.Sliceable closing.span ∧
    e.opening.span.stop ≤ closing.span.start ∧
    ∀ name ∈ closing.children, source.Sliceable name.span ∧ closing.span.start ≤ name.span.start

namespace Node

variable {source : Source} {n : Node}

theorem WellPlaced.attribute {o : Opening} {a : Attribute} (placed : n.WellPlaced source)
    (view : n.opening? = some o) (member : a ∈ o.attributes) : a.Placed source := by
  obtain ⟨c, child, named⟩ := mem_attributes view member
  have placedItem := placed.child child
  have given := @value_mem c a
  obtain ⟨kind, name, values, parts, rfl⟩ := attributeItem?_eq_named named
  have isPart : name ∈ c.children := by
    rw [parts]
    exact List.mem_cons_self
  have within := placedItem.root.inside (by rw [kind]; rfl) name isPart
  refine ⟨placedItem.root.sliceable, (placedItem.child isPart).root.sliceable, within.2, ?_⟩
  intro value held
  exact (placedItem.child (given named held).2).root.sliceable

theorem WellPlaced.element {e : Element} (placed : n.WellPlaced source)
    (delimited : n.WellDelimited source) (view : n.element? = some e) : e.Placed source := by
  obtain ⟨form, _, first, rest, parts, isOpening, _, found⟩ := element?_eq_some view
  obtain ⟨kind, name, items, openingParts, same⟩ := opening?_eq_some isOpening
  have firstChild : first ∈ n.children := by
    rw [parts]
    exact List.mem_cons_self
  have nameChild : name ∈ first.children := by
    rw [openingParts]
    exact List.mem_cons_self
  obtain ⟨bracket, ends⟩ := (delimited.child firstChild).root.bracket kind
  have follows := delimited.root.parts form
  rw [parts] at follows
  obtain ⟨span, opening, children, closing?⟩ := e
  obtain rfl : opening = _ := same
  refine ⟨((placed.child firstChild).child nameChild).root.sliceable, ends name nameChild,
    (Source.isBoundary_of_byte? bracket (by decide)).1, ?_⟩
  intro closing isClosing
  rw [found] at isClosing
  have later := List.mem_of_find?_eq_some isClosing
  have closingKind := isClosing_iff.mp (List.find?_some isClosing)
  have placedClosing := placed.child (n := n) (c := closing) (by
    rw [parts]
    exact List.mem_cons_of_mem _ later)
  refine ⟨placedClosing.root.sliceable, (List.pairwise_cons.mp follows).1 closing later, ?_⟩
  intro closingName part
  exact ⟨(placedClosing.child part).root.sliceable,
    (placedClosing.root.inside (by rw [closingKind]; rfl) closingName part).1⟩

end Node

end JsxCheck
