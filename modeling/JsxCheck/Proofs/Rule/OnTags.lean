import JsxCheck.Lint.Check
import JsxCheck.Proofs.Source.Search
import JsxCheck.Proofs.Syntax.Seats
import JsxCheck.Proofs.Syntax.Views

/-!
Rules on opening tags, and the spans that they point at.

A tag may stand in the attribute of another tag. What most rules point at is seated in the tag that
they look at, by a chain of parts none of which is a tag, so none of these rules points at one span
twice.
-/
namespace JsxCheck

/-- The spans that some diagnostics point at. -/
abbrev spansOf (said : List Diagnostic) : List Span := said.map Diagnostic.span

namespace Node

def isOpening (n : Node) : Bool := n.kind == .jsxOpening

theorem isOpening_iff {n : Node} : n.isOpening = true ↔ n.kind = .jsxOpening := beq_iff_eq

theorem isOpening_plain {n : Node} (opening : n.isOpening = true) :
    n.kind.isSpelling = false ∧ n.kind ≠ .parameters := by
  rw [isOpening_iff.mp opening]
  exact ⟨rfl, by decide⟩

/-- The predicate holds of nothing that stands between a tag and the value of an attribute. -/
def PassesAttributes (p : Node → Bool) : Prop :=
  ∀ n : Node, n.kind = .jsxAttribute ∨ n.kind = .jsxContainer ∨ n.kind = .expr .parenthesized →
    p n = false

theorem isOpening_passes : PassesAttributes isOpening := by
  rintro n (kind | kind | kind) <;> simp [isOpening, kind]

variable {source : Source} {p : Node → Bool} {n c : Node} {k : Nat}

/-! ### Seats in an opening tag -/

theorem seat_attribute {a : Attribute} (formed : c.WellFormed source)
    (named : c.attributeItem? = some (.named a)) : Seat p c a.span.start := by
  obtain ⟨kind, _, _, _, rfl⟩ := attributeItem?_eq_named named
  exact seat_start formed.root (by rw [kind]; rfl) (formed.root.nonempty (by rw [kind]; rfl))

/-- A part of an attribute has its seat in the attribute. -/
theorem seat_of_attribute_part (passes : PassesAttributes p) (formed : c.WellFormed source)
    (kind : c.kind = .jsxAttribute) {part : Node} (child : part ∈ c.children)
    (seat : Seat p part k) : Seat p c k :=
  seat.lift formed.root (by rw [kind]; rfl) child (Or.inl (by rw [kind]; rfl))
    (passes c (Or.inl kind))

theorem seat_part_start (formed : c.WellFormed source)
    (kind : c.kind = .jsxOpening ∨ c.kind = .jsxAttribute) {part : Node}
    (child : part ∈ c.children) : Seat p part part.span.start := by
  have formedPart := (formed.child child).root
  refine seat_start formedPart (formed.root.undecorated ?_ part child)
    (formedPart.nonempty (formed.root.filled kind part child))
  rcases kind with kind | kind <;> rw [kind] <;> rfl

theorem seat_attribute_name {a : Attribute} (passes : PassesAttributes p)
    (formed : c.WellFormed source) (named : c.attributeItem? = some (.named a)) :
    Seat p c a.nameSpan.start := by
  obtain ⟨kind, name, value, parts, rfl⟩ := attributeItem?_eq_named named
  have child : name ∈ c.children := by rw [parts]; exact List.mem_cons_self
  exact seat_of_attribute_part passes formed kind child
    (seat_part_start formed (Or.inr kind) child)

theorem seat_attribute_value {a : Attribute} {value : Node} (passes : PassesAttributes p)
    (formed : c.WellFormed source) (named : c.attributeItem? = some (.named a))
    (given : a.value = some value) : Seat p c value.span.start := by
  obtain ⟨kind, child⟩ := value_mem named given
  exact seat_of_attribute_part passes formed kind child
    (seat_part_start formed (Or.inr kind) child)

theorem seat_of_expression {a : Attribute} {e : Node} (passes : PassesAttributes p)
    (formed : c.WellFormed source) (named : c.attributeItem? = some (.named a))
    (given : a.expression? = some e) (seat : Seat p e k) : Seat p c k := by
  obtain ⟨_, container, held, braces, content⟩ := expression?_eq_some given
  obtain ⟨kind, child⟩ := value_mem named held
  have inner : e ∈ container.children := by rw [content]; exact List.mem_cons_self
  refine seat_of_attribute_part passes formed kind child ?_
  exact seat.lift (formed.child child).root (by rw [braces]; rfl) inner
    (Or.inl (by rw [braces]; rfl)) (passes container (Or.inr (Or.inl braces)))

theorem seat_expr_start {e : Node} (formed : e.Formed source) (expression : e.isExpr = true) :
    Seat p e e.span.start := by
  obtain ⟨form, kind⟩ := kind_of_isExpr expression
  exact seat_start formed (by rw [kind]; rfl) (formed.nonempty (by rw [kind]; rfl))

/-- What has its seat in an expression without its parentheses has it in the expression. -/
theorem seat_of_unwrapParens {e : Node} (passes : PassesAttributes p) (formed : e.WellFormed source)
    (seat : Seat p e.unwrapParens k) : Seat p e k := by
  fun_induction unwrapParens e with
  | case1 s inner ih =>
    have child : inner ∈ (Node.mk (.expr .parenthesized) s [inner]).children := List.mem_cons_self
    exact (ih (formed.child child) seat).lift formed.root rfl child (Or.inl rfl)
      (passes _ (Or.inr (Or.inr rfl)))
  | case2 => exact seat

theorem Seat.seated_opening (formed : n.WellFormed source) (kind : n.kind = .jsxOpening)
    (child : c ∈ n.children) (seat : Seat p c k) (holds : p n = true) : Seated p n k := by
  have after := formed.root.opens (by rw [kind]; rfl) c child
  have before := formed.root.closes (by rw [kind]; rfl) c child
  obtain ⟨low, high⟩ := seat.1
  exact seat.seated formed.root (by rw [kind]; rfl) child (Or.inl (by rw [kind]; rfl)) holds
    ⟨by omega, by omega⟩

end Node

/-! ### Rules on tags and on attributes -/

/-- Diagnostics point at no span twice, and at offsets that have their seats in the node. -/
def Node.Points (p : Node → Bool) (n : Node) (said : List Diagnostic) : Prop :=
  (spansOf said).Nodup ∧ ∀ d ∈ said, Seat p n d.span.start

namespace Node.Points

variable {p : Node → Bool} {n : Node}

theorem nil : Points p n [] := ⟨List.nodup_nil, fun d said => by cases said⟩

theorem one {d : Diagnostic} (seat : Seat p n d.span.start) : Points p n [d] := by
  refine ⟨List.nodup_singleton _, ?_⟩
  intro d' said
  rwa [List.mem_singleton.mp said]

theorem append {said told : List Diagnostic} (first : Points p n said) (second : Points p n told)
    (different : ∀ d ∈ said, ∀ d' ∈ told, d.span.start ≠ d'.span.start) :
    Points p n (said ++ told) := by
  refine ⟨?_, ?_⟩
  · rw [spansOf, List.map_append]
    refine List.Nodup.append first.1 second.1 ?_
    intro s here there
    obtain ⟨d, member, rfl⟩ := List.mem_map.mp here
    obtain ⟨d', member', same⟩ := List.mem_map.mp there
    exact different d member d' member' (congrArg Span.start same.symm)
  · intro d member
    exact (List.mem_append.mp member).elim (first.2 d) (second.2 d)

theorem ite {q : Prop} [Decidable q] {said : List Diagnostic} (points : q → Points p n said) :
    Points p n (if q then said else []) := by
  split
  · exact points ‹_›
  · exact nil

theorem sublist {said told : List Diagnostic} (points : Points p n told)
    (sub : said.Sublist told) : Points p n said :=
  ⟨points.1.sublist (sub.map _), fun d member => points.2 d (sub.subset member)⟩

end Node.Points

/-- What is said of the attributes of one tag is said of different spans. -/
theorem Node.nodup_attributes {source : Source} {p : Node → Bool} {n : Node} {o : Opening}
    {check : Attribute → List Diagnostic} (formed : n.WellFormed source)
    (view : n.opening? = some o)
    (points : ∀ c a, c.WellFormed source → c.attributeItem? = some (.named a) →
      Points p c (check a)) :
    (spansOf (o.attributes.flatMap check)).Nodup := by
  rw [spansOf, List.map_flatMap, List.nodup_flatMap]
  refine ⟨?_, formed.root.attributes_pairwise view ?_⟩
  · intro a listed
    obtain ⟨c, child, named⟩ := mem_attributes view listed
    exact (points c a (formed.child child) named).1
  · intro c child d child' a b named named' apart s first second
    obtain ⟨x, told, rfl⟩ := List.mem_map.mp first
    obtain ⟨y, told', same⟩ := List.mem_map.mp second
    have here := ((points c a (formed.child child) named).2 x told).1
    have there := ((points d b (formed.child child') named').2 y told').1
    rw [same] at there
    exact here.not_apart there apart

namespace Visit

variable {source : Source} {root : Node}

/-- A rule on opening tags points at no span twice when it does not so at one tag, and points into
the parts of the tag. -/
theorem nodup_onOpening {check : Opening → List Diagnostic} (formed : root.WellFormed source)
    (once : ∀ n ∈ root.preorder, ∀ o, n.opening? = some o → (spansOf (check o)).Nodup)
    (seats : ∀ n ∈ root.preorder, ∀ o, n.opening? = some o → ∀ d ∈ check o,
      ∃ c ∈ n.children, Node.Seat Node.isOpening c d.span.start) :
    (spansOf (root.visits.flatMap (onOpening check))).Nodup := by
  rw [spansOf, List.map_flatMap]
  refine Node.nodup_of_seated formed (fun n => Node.isOpening_plain) ?_ ?_
  · intro v member
    unfold onOpening
    split
    · exact once _ (node_mem_preorder member) _ ‹_›
    · exact List.nodup_nil
  · intro v member s said
    have inside := node_mem_preorder member
    unfold onOpening at said
    split at said
    · rename_i o view
      obtain ⟨d, told, rfl⟩ := List.mem_map.mp said
      obtain ⟨c, child, seat⟩ := seats _ inside o view d told
      have kind := (Node.opening?_eq_some view).1
      exact seat.seated_opening (formed.of_mem inside) kind child (Node.isOpening_iff.mpr kind)
    · cases said

/-- A rule on single attributes points at no span twice. -/
theorem nodup_onAttributes {check : Attribute → List Diagnostic} (formed : root.WellFormed source)
    (points : ∀ c a, c.WellFormed source → c.attributeItem? = some (.named a) →
      Node.Points Node.isOpening c (check a)) :
    (spansOf (root.visits.flatMap (onOpening fun o => o.attributes.flatMap check))).Nodup := by
  refine nodup_onOpening formed ?_ ?_
  · intro n member o view
    exact Node.nodup_attributes (formed.of_mem member) view points
  · intro n member o view d said
    obtain ⟨a, listed, told⟩ := List.mem_flatMap.mp said
    obtain ⟨c, child, named⟩ := Node.mem_attributes view listed
    exact ⟨c, child, (points c a ((formed.of_mem member).child child) named).2 d told⟩

end Visit

end JsxCheck
