import JsxCheck.Proofs.Lint.Walk
import JsxCheck.Proofs.Rule.ElementsOnce
import JsxCheck.Proofs.Source.Lines

/-!
Rules on the layout of elements, and the spans that they point at twice.

The rule on parentheses points at the gaps between an element and its parentheses, which belong to the
parentheses, and never points at one gap twice. The rule on alignment looks at every attribute for two
faults, and `alignment_nodup_iff` says that it points at a span twice exactly when some attribute has
both.
-/
namespace JsxCheck

open Node Visit

variable {source : Source} {root : Node}

/-! ### Elements and their parentheses -/

/-- The second node is the first one, or the parentheses around it. -/
structure Node.Wraps (n host : Node) : Prop where
  inside : n ∈ host.preorder
  nothingElse : ∀ m ∈ host.preorder, m = host ∨ m ∈ n.preorder
  form : host = n ∨ host.form? = some .parenthesized

theorem Node.parens_plain {n : Node} (form : n.form? = some .parenthesized) :
    n.kind.isSpelling = false ∧ n.kind ≠ .parameters ∧ n.kind.mayBeEmpty = false ∧
      n.kind.mayBeDecorated = false ∧ n.kind ≠ .jsxOpening := by
  rcases kind_of_form? form with kind | kind <;> rw [kind] <;>
    exact ⟨rfl, by decide, rfl, rfl, by decide⟩

theorem Node.wraps_self (n : Node) : Wraps n n :=
  ⟨self_mem_preorder n, fun _ => Or.inr, Or.inl rfl⟩

theorem Node.wraps_parens {n paren : Node} (formed : paren.Formed source)
    (form : paren.form? = some .parenthesized) (child : n ∈ paren.children) : Wraps n paren := by
  refine ⟨mem_preorder_of_child child, ?_, Or.inr form⟩
  intro m inside
  refine (mem_preorder.mp inside).imp id ?_
  intro below
  obtain ⟨c, child', deeper⟩ := mem_descendants.mp below
  -- Parentheses hold one node.
  obtain ⟨only, shape⟩ := List.length_eq_one_iff.mp (formed.wrapped form)
  rw [shape, List.mem_singleton] at child child'
  rwa [child, ← child']

section Hosts

variable {a b host host' : Node}

theorem Node.Wraps.plain (wraps : Wraps a host) (element : a.form? = some .jsxElement) :
    host.kind.isSpelling = false ∧ host.kind ≠ .parameters ∧ host.kind.mayBeEmpty = false ∧
      host.kind.mayBeDecorated = false ∧ host.kind ≠ .jsxOpening := by
  rcases wraps.form with rfl | form
  · rcases kind_of_form? element with kind | kind <;> rw [kind] <;>
      exact ⟨rfl, by decide, rfl, rfl, by decide⟩
  · exact parens_plain form

/-- The parentheses of elements beside each other lie beside each other. -/
theorem Node.Wraps.apart (formed : root.WellFormed source)
    (first : a.form? = some .jsxElement) (second : b.form? = some .jsxElement)
    (wraps : Wraps a host) (wraps' : Wraps b host')
    (member : host ∈ root.preorder) (member' : host' ∈ root.preorder)
    (beside : a.extent.Apart b.extent) : host.extent.Apart host'.extent := by
  have plain := wraps.plain first
  have plain' := wraps'.plain second
  have solid : ∀ {n : Node}, n ∈ root.preorder → n.form? = some .jsxElement →
      n.extent.Holds n.span.start := by
    intro n inside form
    have nonempty := (formed.formed inside).nonempty (element_plain form).2.2.2.1
    exact Span.Holds.mono (a := n.span) ⟨Nat.le_refl _, nonempty⟩ (span_within_extent n)
  have solidA := solid (preorder_trans wraps.inside member) first
  have solidB := solid (preorder_trans wraps'.inside member') second
  have notInB : a ∉ b.preorder := fun inside =>
    solidA.not_apart (solidA.mono (extent_within_extent inside)) beside
  have notInA : b ∉ a.preorder := fun inside =>
    (solidB.mono (extent_within_extent inside)).not_apart solidB beside
  rcases formed.nested_or_apart member member' ⟨plain.1, plain.2.1⟩ ⟨plain'.1, plain'.2.1⟩ with
    inside | around | apart
  · rcases wraps'.nothingElse a (preorder_trans wraps.inside inside) with rfl | inB
    · exact absurd wraps'.inside notInA
    · exact absurd inB notInB
  · rcases wraps.nothingElse b (preorder_trans wraps'.inside around) with rfl | inA
    · exact absurd wraps.inside notInB
    · exact absurd inA notInA
  · exact apart

/-- The parentheses of an element in another element are in that element. -/
theorem Node.Wraps.below (formed : root.WellFormed source)
    (first : a.form? = some .jsxElement) (second : b.form? = some .jsxElement)
    (wraps : Wraps b host) (memberA : a ∈ root.preorder) (member : host ∈ root.preorder)
    (under : b ∈ a.descendants) : host ∈ a.descendants := by
  have plainA := element_plain first
  have plain := wraps.plain second
  have plainB := element_plain second
  have formedA := formed.of_mem memberA
  have inA : b ∈ a.preorder := mem_preorder.mpr (Or.inr under)
  have solid := (formedA.formed inA).nonempty plainB.2.2.2.1
  have later := start_lt_of_element formedA first under (wraps_self b |>.plain second).2.2.2.2 solid
  have notInB : a ∉ b.preorder := fun inside => by
    have low := ((formedA.formed inA).within_span plainB.1 inside).1
    omega
  rcases formed.nested_or_apart member memberA ⟨plain.1, plain.2.1⟩
    ⟨plainA.2.2.2.2.1, plainA.2.2.2.2.2⟩ with inside | around | apart
  · rcases mem_preorder.mp inside with rfl | below
    · rcases wraps.form with rfl | parens
      · exact absurd (self_mem_preorder host) notInB
      · rw [first] at parens
        cases parens
    · exact below
  · rcases wraps.nothingElse a around with rfl | inB
    · rcases wraps.form with rfl | parens
      · exact absurd (self_mem_preorder a) notInB
      · rw [first] at parens
        cases parens
    · exact absurd inB notInB
  · have here : b.extent.Holds b.span.start :=
      Span.Holds.mono (a := b.span) ⟨Nat.le_refl _, solid⟩ (span_within_extent b)
    exact ((here.mono (extent_within_extent wraps.inside)).not_apart
      (here.mono (extent_within_extent inA)) apart).elim

end Hosts

/-- What is said of an element with its parentheses lies in the parentheses, and has an edge in
common with the element. -/
theorem Rule.wrapMultiline_spans (doc : Document) (formed : root.WellFormed source) {v : Visit}
    {e : Element} (member : v ∈ root.visits) (view : v.node.element? = some e) {s : Span}
    (said : s ∈ spansOf (wrapMultiline doc e v.position)) :
    ∃ host ∈ root.preorder, Wraps v.node host ∧ s.Within host.span ∧ s.start < s.stop ∧
      (s.start = v.node.span.start ∨ s.stop = v.node.span.start ∨ s.start = v.node.span.stop) := by
  obtain ⟨form, span, _⟩ := element?_eq_some view
  have inside := node_mem_preorder member
  unfold wrapMultiline at said
  rw [span] at said
  split at said
  · split at said
    · cases said
    · obtain rfl := List.mem_singleton.mp said
      exact ⟨v.node, inside, wraps_self _, Span.Within.refl _,
        (formed.formed inside).nonempty (element_plain form).2.2.2.1, Or.inl rfl⟩
    · rename_i paren position
      obtain ⟨parent, above, isParens, rfl⟩ := position_eq_parenthesized_iff.mp position
      obtain ⟨_, _, visited⟩ := parent?_visited member above
      have inTree : parent ∈ root.preorder := node_mem_preorder visited
      have around := formed.formed inTree
      have child := mem_children_of_parent? member above
      obtain ⟨before, after⟩ := around.inside_parens isParens child
      have ordered := (formed.formed inside).ordered
      refine ⟨parent, inTree, wraps_parens around isParens child, ?_⟩
      have gap : s = ⟨parent.span.start, v.node.span.start⟩ ∨
          s = ⟨v.node.span.stop, parent.span.stop⟩ := by
        rw [spansOf, List.map_append] at said
        rcases List.mem_append.mp said with said | said
        · split at said
          · exact Or.inl (List.mem_singleton.mp said)
          · cases said
        · split at said
          · exact Or.inr (List.mem_singleton.mp said)
          · cases said
      rcases gap with rfl | rfl
      · exact ⟨⟨Nat.le_refl _, by dsimp only; omega⟩, before, Or.inr (Or.inl rfl)⟩
      · exact ⟨⟨by dsimp only; omega, Nat.le_refl _⟩, after, Or.inr (Or.inr rfl)⟩
  · cases said

/-- The gap in front of an element is not the gap behind it. -/
theorem Rule.wrapMultiline_nodup (doc : Document) (formed : root.WellFormed source) {v : Visit}
    {e : Element} (member : v ∈ root.visits) (view : v.node.element? = some e) :
    (spansOf (wrapMultiline doc e v.position)).Nodup := by
  obtain ⟨_, span, _⟩ := element?_eq_some view
  unfold wrapMultiline
  split
  · split
    · exact List.nodup_nil
    · exact List.nodup_singleton _
    · rename_i paren position
      obtain ⟨parent, above, isParens, rfl⟩ := position_eq_parenthesized_iff.mp position
      obtain ⟨_, _, visited⟩ := parent?_visited member above
      have inTree : parent ∈ root.preorder := node_mem_preorder visited
      have around := (formed.formed inTree).inside_parens isParens
        (mem_children_of_parent? member above)
      have ordered := (formed.formed (node_mem_preorder member)).ordered
      rw [spansOf, List.map_append, List.nodup_append]
      refine ⟨by split <;> simp, by split <;> simp, ?_⟩
      intro s first t second
      obtain rfl : s = ⟨parent.span.start, e.span.start⟩ := by
        split at first
        · exact List.mem_singleton.mp first
        · cases first
      obtain rfl : t = ⟨e.span.stop, parent.span.stop⟩ := by
        split at second
        · exact List.mem_singleton.mp second
        · cases second
      intro same
      have starts : parent.span.start = e.span.stop := congrArg Span.start same
      rw [span] at starts
      omega
  · exact List.nodup_nil

theorem Rule.wrapMultiline_once (doc : Document) (formed : root.WellFormed source) :
    (spansOf (root.visits.flatMap fun v =>
      v.onElement fun e => wrapMultiline doc e v.position)).Nodup := by
  rw [spansOf, List.map_flatMap, List.nodup_flatMap]
  have said : ∀ v ∈ root.visits,
      ∀ s ∈ (v.onElement fun e => wrapMultiline doc e v.position).map Diagnostic.span,
      v.node.form? = some .jsxElement ∧
        ∃ host ∈ root.preorder, Wraps v.node host ∧ s.Within host.span ∧ s.start < s.stop ∧
          (s.start = v.node.span.start ∨ s.stop = v.node.span.start ∨
            s.start = v.node.span.stop) := by
    intro v member s told
    unfold onElement at told
    split at told
    · rename_i e view
      exact ⟨(element?_eq_some view).1, wrapMultiline_spans doc formed member view told⟩
    · cases told
  refine ⟨?_, formed.visits_apart.imp_of_mem ?_⟩
  · intro v member
    unfold onElement
    split
    · exact wrapMultiline_nodup doc formed member ‹_›
    · exact List.nodup_nil
  · intro v w memberV memberW related s first second
    obtain ⟨formV, host, inTree, wraps, within, solid, edge⟩ := said v memberV s first
    obtain ⟨formW, host', inTree', wraps', within', _⟩ := said w memberW s second
    have insideV := node_mem_preorder memberV
    have plainV := element_plain formV
    rcases related with below | apart | spelling | parameters
    · have deeper := wraps'.below formed formV formW insideV inTree' below
      have plain' := wraps'.plain formW
      have formedV := formed.of_mem insideV
      have inV : host' ∈ v.node.preorder := mem_preorder.mpr (Or.inr deeper)
      have later := start_lt_of_element formedV formV deeper plain'.2.2.2.2
        ((formedV.formed inV).nonempty plain'.2.2.1)
      have high := (formedV.root.within_span plainV.1 inV).2
      obtain ⟨low, up⟩ := within'
      rcases edge with edge | edge | edge <;> omega
    · have beside := wraps.apart formed formV formW wraps' inTree inTree' apart
      exact (Span.Holds.mono (a := s) ⟨Nat.le_refl _, solid⟩
        (within.trans (span_within_extent host))).not_apart
          (Span.Holds.mono (a := s) ⟨Nat.le_refl _, solid⟩
            (within'.trans (span_within_extent host'))) beside
    · rw [plainV.2.2.2.2.1] at spelling
      cases spelling
    · exact absurd parameters (element_plain formW).2.2.2.2.2

/-! ### Alignment of attributes -/

namespace Rule.Alignment

/-- Some attribute other than the first is neither indented nor aligned with the first. -/
def HasTwoFaults (doc : Document) (e : Element) : Prop :=
  doc.isMultiline e.opening.span = true ∧ ∃ first rest, e.opening.items = first :: rest ∧
    ∃ item ∈ rest, doc.column item.span.start ≤ indentOf doc e ∧
      doc.column item.span.start ≠ doc.column first.span.start

/-- What is wrong with an attribute other than the first. -/
def faults (doc : Document) (e : Element) (first item : AttributeItem) : List Diagnostic :=
  reportIf (doc.column item.span.start ≤ indentOf doc e) item.span notIndented
    ++ reportIf (doc.column item.span.start != doc.column first.span.start) item.span notAligned

/-- What is wrong with the first attribute. -/
def firstFaults (doc : Document) (e : Element) (first : AttributeItem) : List Diagnostic :=
  reportIf (doc.line first.span.start == doc.line e.opening.span.start) first.span onTagLine
    ++ reportIf (doc.column first.span.start ≤ indentOf doc e) first.span notIndented

theorem attributes_eq (doc : Document) (e : Element) (first : AttributeItem)
    (rest : List AttributeItem) :
    attributes doc e first rest = firstFaults doc e first ++ rest.flatMap (faults doc e first) := rfl

theorem spans_reportIf (wrong : Bool) (span : Span) (message : String) :
    spansOf (reportIf wrong span message) = if wrong then [span] else [] := by
  cases wrong <;> rfl

theorem mem_spans_reportIf {wrong : Bool} {span s : Span} {message : String}
    (said : s ∈ spansOf (reportIf wrong span message)) : s = span := by
  rw [spans_reportIf] at said
  split at said
  · exact List.mem_singleton.mp said
  · cases said

theorem mem_spans_append {wrong wrong' : Bool} {span s : Span} {message message' : String}
    (said : s ∈ spansOf (reportIf wrong span message ++ reportIf wrong' span message')) :
    s = span := by
  rw [spansOf, List.map_append] at said
  rcases List.mem_append.mp said with said | said <;> exact mem_spans_reportIf said

/-- A span is reported twice when both of two faults are there. -/
theorem nodup_reportIf_append (wrong wrong' : Bool) (span : Span) (message message' : String) :
    (spansOf (reportIf wrong span message ++ reportIf wrong' span message')).Nodup ↔
      ¬ (wrong = true ∧ wrong' = true) := by
  rw [spansOf, List.map_append, ← spansOf, ← spansOf, spans_reportIf, spans_reportIf]
  cases wrong <;> cases wrong' <;> simp

theorem mem_spans_attributes {doc : Document} {e : Element} {first : AttributeItem}
    {rest : List AttributeItem} {s : Span} (said : s ∈ spansOf (attributes doc e first rest)) :
    ∃ item ∈ first :: rest, s = item.span := by
  rw [attributes_eq, spansOf, List.map_append, List.map_flatMap] at said
  rcases List.mem_append.mp said with early | late
  · exact ⟨first, List.mem_cons_self, mem_spans_append early⟩
  · obtain ⟨item, listed, told⟩ := List.mem_flatMap.mp late
    exact ⟨item, List.mem_cons_of_mem _ listed, mem_spans_append told⟩

/-- Attributes with different spans are reported once unless one of them has two faults. -/
theorem nodup_attributes_iff {doc : Document} {e : Element} {first : AttributeItem}
    {rest : List AttributeItem}
    (different : (first :: rest).Pairwise fun i j => i.span ≠ j.span)
    (below : doc.line first.span.start = doc.line e.opening.span.start →
      indentOf doc e < doc.column first.span.start) :
    (spansOf (attributes doc e first rest)).Nodup ↔
      ∀ item ∈ rest, ¬ (doc.column item.span.start ≤ indentOf doc e ∧
        doc.column item.span.start ≠ doc.column first.span.start) := by
  obtain ⟨fromFirst, among⟩ := List.pairwise_cons.mp different
  have start : (spansOf (firstFaults doc e first)).Nodup := by
    rw [firstFaults, nodup_reportIf_append]
    rintro ⟨onLine, shallow⟩
    have deeper := below (beq_iff_eq.mp onLine)
    have low := of_decide_eq_true shallow
    omega
  have later : (spansOf (rest.flatMap (faults doc e first))).Nodup ↔
      ∀ item ∈ rest, (spansOf (faults doc e first item)).Nodup := by
    rw [spansOf, List.map_flatMap, List.nodup_flatMap]
    refine and_iff_left (among.imp ?_)
    intro i j differ s one two
    exact differ ((mem_spans_append one).symm.trans (mem_spans_append two))
  rw [attributes_eq, spansOf, List.map_append, List.nodup_append, ← spansOf, ← spansOf, later]
  constructor
  · rintro ⟨_, each, _⟩ item listed ⟨shallow, askew⟩
    exact (nodup_reportIf_append _ _ _ _ _).mp (each item listed)
      ⟨decide_eq_true shallow, bne_iff_ne.mpr askew⟩
  · intro sound
    refine ⟨start, ?_, ?_⟩
    · intro item listed
      refine (nodup_reportIf_append _ _ _ _ _).mpr ?_
      rintro ⟨shallow, askew⟩
      exact sound item listed ⟨of_decide_eq_true shallow, bne_iff_ne.mp askew⟩
    · intro s early t late
      rw [spansOf, List.map_flatMap] at late
      obtain ⟨item, listed, said⟩ := List.mem_flatMap.mp late
      rw [mem_spans_append early, mem_spans_append said]
      exact fromFirst item listed

/-- The tag is closed behind all its parts. -/
theorem closeOffset_spec {n tag : Node} {rest : List Node} {e : Element}
    (formed : n.WellFormed source) (view : n.element? = some e) (parts : n.children = tag :: rest) :
    tag.span.start < closeOffset e ∧ closeOffset e < tag.span.stop ∧
      ∀ c ∈ tag.children, c.extent.stop ≤ closeOffset e := by
  obtain ⟨form, _, first, others, shape, isTag, _, closing⟩ := element?_eq_some view
  obtain ⟨rfl, rfl⟩ := List.cons.inj (parts.symm.trans shape)
  obtain ⟨kind, name, _, children, opening⟩ := opening?_eq_some isTag
  have formedTag := (formed.child (by rw [parts]; exact List.mem_cons_self)).root
  have named : name ∈ tag.children := by rw [children]; exact List.mem_cons_self
  have before : ∀ c ∈ tag.children, c.extent.stop ≤ closeOffset e ∧
      closeOffset e < tag.span.stop := by
    intro c child
    have solid := formedTag.nonempty (by rw [kind]; rfl)
    unfold closeOffset
    rw [opening]
    cases selfClosing : e.isSelfClosing with
    | true =>
      have none : (rest.find? isClosing).isNone = true := by rw [← closing]; exact selfClosing
      obtain ⟨same, room⟩ := slash_of_element formed form parts none
      have bound := room c child
      dsimp only
      rw [if_pos rfl]
      omega
    | false =>
      have bound := formedTag.closes (by rw [kind]; rfl) c child
      dsimp only
      rw [if_neg Bool.false_ne_true]
      omega
  have after := formedTag.opens (by rw [kind]; rfl) name named
  have ordered := (formed.formed (preorder_trans (mem_preorder_of_child named)
    (mem_preorder_of_child (by rw [parts]; exact List.mem_cons_self)))).ordered
  have within := span_within_extent name
  obtain ⟨low, high⟩ := within
  obtain ⟨stop, bound⟩ := before name named
  exact ⟨by omega, bound, fun c child => (before c child).1⟩

theorem seat_close {n tag : Node} {rest : List Node} {e : Element} (formed : n.WellFormed source)
    (view : n.element? = some e) (parts : n.children = tag :: rest) :
    Seat isJsxElement tag (closeOffset e) := by
  obtain ⟨after, before, behind⟩ := closeOffset_spec formed view parts
  have kind := (opening_of_element formed (element?_eq_some view).1 parts).1
  refine ⟨Span.Holds.mono (a := tag.span) ⟨by omega, before⟩ (span_within_extent tag), ?_⟩
  intro m inside element
  rcases mem_preorder.mp inside with rfl | below
  · rw [isJsxElement_of_opening kind] at element
    cases element
  · obtain ⟨c, child, deeper⟩ := mem_descendants.mp below
    exact Or.inr (Nat.le_trans (span_within_extent_of_mem deeper).2 (behind c child))

/-- What the rule points at is an attribute, the end of the opening tag or the closing tag. -/
theorem mem_spans_alignment {doc : Document} {e : Element} {s : Span}
    (said : s ∈ spansOf (alignment doc e)) :
    (∃ item ∈ e.opening.items, s = item.span) ∨ s.start = closeOffset e ∨
      ∃ tag, e.closing = some tag ∧ s = tag.span := by
  unfold alignment at said
  split at said
  · cases said
  · rename_i first rest items
    split at said
    · rw [spansOf, List.map_append, List.map_append] at said
      rcases List.mem_append.mp said with said | atClosing
      · rcases List.mem_append.mp said with atItem | atEnd
        · rw [items]
          exact Or.inl (mem_spans_attributes atItem)
        · exact Or.inr (Or.inl (by rw [mem_spans_reportIf atEnd]))
      · refine Or.inr (Or.inr ?_)
        unfold closing at atClosing
        split at atClosing
        · cases atClosing
        · exact ⟨_, ‹_›, mem_spans_reportIf atClosing⟩
    · cases said

theorem alignment_seated {doc : Document} {n : Node} {e : Element} {s : Span}
    (formed : n.WellFormed source) (view : n.element? = some e)
    (said : s ∈ spansOf (alignment doc e)) : Seated isJsxElement n s.start := by
  obtain ⟨form, _, tag, rest, parts, isTag, _, closing⟩ := element?_eq_some view
  have holds := isJsxElement_iff.mpr form
  have inTree : tag ∈ n.children := by rw [parts]; exact List.mem_cons_self
  obtain ⟨kind, _, start, _⟩ := opening_of_element formed form parts
  have passed := isJsxElement_of_opening kind
  rcases mem_spans_alignment said with ⟨item, listed, rfl⟩ | atEnd | ⟨last, found, rfl⟩
  · obtain ⟨c, child, isItem⟩ := mem_items isTag listed
    rw [item_span isItem]
    exact (seat_part_start (formed.child inTree) (Or.inl kind) child).seated_tag formed form parts
      passed child holds
  · rw [atEnd]
    exact (seat_close formed view parts).seated_element formed form inTree holds
      (start ▸ (closeOffset_spec formed view parts).1)
  · rw [closing] at found
    have child : last ∈ n.children := by
      rw [parts]
      exact List.mem_cons_of_mem _ (List.mem_of_find?_eq_some found)
    have kind := isClosing_iff.mp (List.find?_some found)
    have formedLast := (formed.child child).root
    have solid := formedLast.nonempty (by rw [kind]; rfl)
    exact (seat_start formedLast (by rw [kind]; rfl) solid).seated_element formed form child holds
      (start_lt_of_element formed form (mem_descendants_of_child child) (by rw [kind]; decide) solid)

/-- An attribute on the line of the tag is indented further than the line, since the tag is. -/
theorem indentOf_lt_column {text : String} (dialect : Dialect) (path : Option String)
    (comments : List Span) {e : Element} {offset : Nat}
    (bracket : (Source.mk text).byte? e.opening.span.start = some 60)
    (behind : e.opening.span.start < offset)
    (same : (Document.ofText text dialect path comments).line offset =
      (Document.ofText text dialect path comments).line e.opening.span.start) :
    indentOf (.ofText text dialect path comments) e <
      (Document.ofText text dialect path comments).column offset := by
  have low := LineIndex.lineStart_line_le ⟨text⟩ e.opening.span.start
  have solid : ((Source.mk text).byte? e.opening.span.start).any LineIndex.isIndentByte = false := by
    rw [bracket]
    rfl
  have indent : LineIndex.indentFrom ⟨text⟩ (Source.mk text).size
      ((LineIndex.ofSource ⟨text⟩).lineStart
        ((LineIndex.ofSource ⟨text⟩).line e.opening.span.start)) ≤ _ :=
    LineIndex.indentFrom_le low solid
  change (LineIndex.ofSource ⟨text⟩).line offset =
    (LineIndex.ofSource ⟨text⟩).line e.opening.span.start at same
  change LineIndex.indentFrom ⟨text⟩ (Source.mk text).size ((LineIndex.ofSource ⟨text⟩).lineStart
      ((LineIndex.ofSource ⟨text⟩).line e.opening.span.start)) <
    offset - (LineIndex.ofSource ⟨text⟩).lineStart ((LineIndex.ofSource ⟨text⟩).line offset)
  rw [same]
  omega

theorem items_differ {n : Node} {o : Opening} (formed : n.WellFormed source)
    (view : n.opening? = some o) : o.items.Pairwise fun i j => i.span ≠ j.span := by
  refine formed.root.items_pairwise view ?_
  intro c child d child' i j isItem isItem' apart
  rw [item_span isItem, item_span isItem']
  have kind := (opening?_eq_some view).1
  have solid := (formed.child child).root.nonempty
    (formed.root.filled (Or.inl kind) c child)
  exact (apart.within (span_within_extent c) (span_within_extent d)).ne solid

theorem nodup_openingEnd_closing (doc : Document) (e : Element) (last : AttributeItem)
    (behind : ∀ tag, e.closing = some tag → closeOffset e < tag.span.start) :
    (spansOf (openingEnd doc e last ++ closing doc e)).Nodup := by
  rw [spansOf, List.map_append, List.nodup_append]
  have once : ∀ wrong span message, (spansOf (reportIf wrong span message)).Nodup := by
    intro wrong span message
    cases wrong
    · exact List.nodup_nil
    · exact List.nodup_singleton _
  refine ⟨once _ _ _, ?_, ?_⟩
  · unfold closing
    split
    · exact List.nodup_nil
    · exact once _ _ _
  · intro s atEnd t atClosing
    rw [mem_spans_reportIf atEnd]
    unfold closing at atClosing
    split at atClosing
    · cases atClosing
    · rename_i tag found
      rw [mem_spans_reportIf atClosing]
      intro same
      have less := behind tag found
      have starts := congrArg Span.start same
      dsimp only at starts
      omega

/-- The rule points twice at one span of an element exactly when an attribute has two faults. -/
theorem nodup_alignment_iff {text : String} (dialect : Dialect) (path : Option String)
    (comments : List Span) {n : Node} {e : Element} (formed : n.WellFormed ⟨text⟩)
    (view : n.element? = some e) :
    (spansOf (alignment (.ofText text dialect path comments) e)).Nodup ↔
      ¬ HasTwoFaults (.ofText text dialect path comments) e := by
  obtain ⟨form, _, tag, others, parts, isTag, _, closing⟩ := element?_eq_some view
  have inTree : tag ∈ n.children := by rw [parts]; exact List.mem_cons_self
  have formedTag := formed.child inTree
  obtain ⟨kind, _, _, _, opening⟩ := opening?_eq_some isTag
  have tagSpan : e.opening.span = tag.span := by rw [opening]
  obtain ⟨_, before, behind⟩ := closeOffset_spec formed view parts
  have atClosing : ∀ last, e.closing = some last → closeOffset e < last.span.start := by
    intro last found
    rw [closing] at found
    have member := List.mem_of_find?_eq_some found
    have closes := isClosing_iff.mp (List.find?_some found)
    have solid := (formed.child (by rw [parts]; exact List.mem_cons_of_mem _ member)).root.nonempty
      (by rw [closes]; rfl)
    have after := formed.root.behind_opening form parts member (self_mem_preorder last) solid
    omega
  have items : ∀ item ∈ e.opening.items, tag.span.start < item.span.start ∧
      item.span.start < closeOffset e := by
    intro item listed
    obtain ⟨c, child, isItem⟩ := mem_items isTag listed
    have solid := (formedTag.child child).root.nonempty
      (formedTag.root.filled (Or.inl kind) c child)
    have after := formedTag.root.opens (by rw [kind]; rfl) c child
    have bound := behind c child
    obtain ⟨low, high⟩ := span_within_extent c
    rw [item_span isItem]
    omega
  unfold alignment HasTwoFaults
  split
  · rename_i none
    rw [none]
    simp
  · rename_i first rest shape
    rw [shape] at items
    split
    · rename_i multiline
      have different := items_differ formedTag isTag
      rw [shape] at different
      have bracket : (Source.mk text).byte? e.opening.span.start = some 60 := by
        rw [tagSpan]
        exact formedTag.root.bracket kind
      have behindTag : e.opening.span.start < first.span.start := by
        rw [tagSpan]
        exact (items first List.mem_cons_self).1
      rw [List.append_assoc, spansOf, List.map_append, List.nodup_append, ← spansOf, ← spansOf,
        nodup_attributes_iff different (indentOf_lt_column dialect path comments bracket behindTag),
        shape]
      constructor
      · rintro ⟨sound, _⟩ ⟨_, first', rest', same, item, listed, shallow, askew⟩
        obtain ⟨rfl, rfl⟩ := List.cons.inj same
        exact sound item listed ⟨shallow, askew⟩
      · intro sound
        refine ⟨?_, nodup_openingEnd_closing _ e _ atClosing, ?_⟩
        · rintro item listed ⟨shallow, askew⟩
          exact sound ⟨multiline, first, rest, rfl, item, listed, shallow, askew⟩
        · intro s early t late same
          subst t
          obtain ⟨item, listed, rfl⟩ := mem_spans_attributes early
          have front := (items item listed).2
          rw [spansOf, List.map_append] at late
          rcases List.mem_append.mp late with atEnd | atLast
          · have starts := congrArg Span.start (mem_spans_reportIf atEnd)
            dsimp only at starts
            omega
          · unfold Alignment.closing at atLast
            split at atLast
            · cases atLast
            · rename_i last found
              have less := atClosing last found
              have starts := congrArg Span.start (mem_spans_reportIf atLast)
              omega
    · rename_i single
      refine iff_of_true List.nodup_nil ?_
      rintro ⟨multiline, _⟩
      exact single multiline

end Rule.Alignment

/-- The rule on alignment points at no span twice exactly when no attribute of an element has two
faults. -/
theorem Rule.alignment_nodup_iff {text : String} (dialect : Dialect) (path : Option String)
    (comments : List Span) (formed : root.WellFormed ⟨text⟩) :
    (spansOf (root.visits.flatMap
        (onElement (alignment (.ofText text dialect path comments))))).Nodup ↔
      ∀ n ∈ root.preorder, ∀ e, n.element? = some e →
        ¬ Alignment.HasTwoFaults (.ofText text dialect path comments) e := by
  rw [spansOf, List.map_flatMap, List.nodup_flatMap]
  have apart := disjoint_of_seated (p := isJsxElement)
    (f := fun v => (onElement (alignment (.ofText text dialect path comments)) v).map Diagnostic.span)
    formed (fun n => isJsxElement_plain) (by
      intro v member s said
      unfold onElement at said
      split at said
      · exact Alignment.alignment_seated (formed.of_mem (node_mem_preorder member)) ‹_› said
      · cases said)
  rw [and_iff_left apart]
  constructor
  · intro once n member e view
    obtain ⟨v, visited, rfl⟩ := List.mem_map.mp member
    have here := once v visited
    rw [onElement, view] at here
    exact (Alignment.nodup_alignment_iff dialect path comments (formed.of_mem member) view).mp here
  · intro sound v visited
    have member := node_mem_preorder visited
    unfold onElement
    split
    · rename_i e view
      exact (Alignment.nodup_alignment_iff dialect path comments (formed.of_mem member) view).mpr
        (sound v.node member e view)
    · exact List.nodup_nil

end JsxCheck
