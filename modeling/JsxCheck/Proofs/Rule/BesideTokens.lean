import JsxCheck.Proofs.Rule.Applicable
import JsxCheck.Proofs.Rule.AtNodes
import JsxCheck.Proofs.Rule.LayoutOnce
import JsxCheck.Proofs.Syntax.Faithful

/-!
Rules that point beside tokens.

Five rules build spans of their own from the offsets of tokens. Three of them can always be cut out of
the text. The other two take the byte beside a token for a character: a character of several bytes
beside the `=` of an attribute, or in front of the `>` of a tag that closes itself, is split, and
nothing else is.
-/
namespace JsxCheck

open Node Visit

/-- A character of several bytes ends at the offset. -/
def Source.WideBefore (s : Source) (i : Nat) : Prop := ∃ c, s.charBefore? i = some c ∧ 1 < c.utf8Size

/-- A character of several bytes begins at the offset. -/
def Source.WideAt (s : Source) (i : Nat) : Prop := ∃ c, s.char? i = some c ∧ 1 < c.utf8Size

/-- Where the `=` of an attribute stands. -/
def Attribute.equals? (doc : Document) (a : Attribute) : Option Nat :=
  a.value.bind fun value =>
    findToken doc.source doc.comments a.nameSpan.stop value.span.start "="

/-- Space beside the `=` of an attribute begins or ends, at the `=`, with a character of several
bytes. -/
def Attribute.WideBesideEquals (doc : Document) (a : Attribute) : Prop :=
  ∃ value ∈ a.value, ∃ equals ∈ a.equals? doc,
    (a.nameSpan.stop < equals ∧ doc.source.WideBefore equals) ∨
      (equals + 1 < value.span.start ∧ doc.source.WideAt (equals + 1))

namespace Rule.Alignment

/-- The end of an opening tag on several lines is on the line of its last attribute, or is not
indented as the line is on which the tag opens. -/
def ClosesAstray (doc : Document) (e : Element) : Prop :=
  doc.isMultiline e.opening.span = true ∧ ∃ first rest, e.opening.items = first :: rest ∧
    (doc.line (rest.getLastD first).span.start = doc.line (closeOffset e) ∨
      doc.column (closeOffset e) ≠ indentOf doc e)

/-- A tag that closes itself closes astray, with a character of several bytes between `/` and `>`. -/
def WideClose (doc : Document) (e : Element) : Prop :=
  ClosesAstray doc e ∧ e.isSelfClosing = true ∧ doc.source.WideBefore (e.opening.span.stop - 1)

end Rule.Alignment

variable {doc : Document}

/-! ### Space around `=` -/

namespace Rule.EqualsSpacing

variable {nameStop equals valueStart : Nat}

/-- Space in front of `=` is pointed at by its last byte. -/
theorem before_sliceable_iff (commented : doc.source.Commented doc.comments)
    (named : doc.source.isBoundary nameStop = true) (low : nameStop ≤ equals)
    (token : doc.source.byte? equals = some 61) :
    (∀ gap ∈ whitespaceGap doc.source doc.comments nameStop equals,
        doc.source.Sliceable (before equals)) ↔
      ¬ (nameStop < equals ∧ doc.source.WideBefore equals) := by
  have boundary := (Source.isBoundary_of_byte? token (by decide)).1
  have sliceable : doc.source.Sliceable ⟨nameStop, equals⟩ := ⟨low, named, boundary⟩
  constructor
  · rintro each ⟨less, c, found, wide⟩
    -- A comment that ends at `=` ends with a slash, so the last byte of the space is in none.
    have gap := (commented.arranged.whitespaceGap_eq_some_iff sliceable).mpr
      ⟨rfl, equals - 1, by omega, by omega, ?_⟩
    · have single := (Source.sliceable_before_iff found).mp (each _ gap)
      omega
    · intro comment listed _ high inside
      obtain rfl : comment.stop = equals := by omega
      have slash := commented.byte?_before listed token (by decide) (by decide)
      have cut := (Source.isBoundary_of_byte? slash (by decide)).1
      have single := (Source.isBoundary_pred_iff found).2.mp cut
      omega
  · intro narrow gap found
    have less := whitespaceGap_lt found
    obtain ⟨c, _, last, _⟩ := Source.exists_charBefore? boundary (by omega)
    have size := c.utf8Size_pos
    refine (Source.sliceable_before_iff last).mpr ?_
    by_contra wide
    exact narrow ⟨less, c, last, by omega⟩

/-- Space behind `=` is pointed at by its first byte. -/
theorem after_sliceable_iff (commented : doc.source.Commented doc.comments)
    (token : doc.source.byte? equals = some 61) (high : equals + 1 ≤ valueStart)
    (valued : doc.source.isBoundary valueStart = true) :
    (∀ gap ∈ whitespaceGap doc.source doc.comments (equals + 1) valueStart,
        doc.source.Sliceable (after equals)) ↔
      ¬ (equals + 1 < valueStart ∧ doc.source.WideAt (equals + 1)) := by
  have boundary := (Source.isBoundary_of_byte? token (by decide)).2
  have sliceable : doc.source.Sliceable ⟨equals + 1, valueStart⟩ := ⟨high, boundary, valued⟩
  constructor
  · rintro each ⟨less, c, found, wide⟩
    -- A comment that begins behind `=` begins with a slash, so the first byte is in none.
    have gap := (commented.arranged.whitespaceGap_eq_some_iff sliceable).mpr
      ⟨rfl, equals + 1, by omega, less, ?_⟩
    · have single := (Source.sliceable_behind_iff found).mp (each _ gap)
      omega
    · intro comment listed low _ inside
      have slash := commented.slash listed
      rw [show comment.start = equals + 1 by omega] at slash
      have cut := (Source.isBoundary_of_byte? slash (by decide)).2
      have single := (Source.isBoundary_succ_iff found).mp cut
      omega
  · intro narrow gap found
    have less := whitespaceGap_lt found
    have bound := Source.le_size_of_isBoundary valued
    obtain ⟨c, first⟩ := Source.exists_char? boundary (by omega)
    have size := c.utf8Size_pos
    refine (Source.sliceable_behind_iff first).mpr ?_
    by_contra wide
    exact narrow ⟨less, c, first, by omega⟩

/-- Behind an `=` without space stands a comment or the value, which begin with one byte. -/
theorem sliceable_after (commented : doc.source.Commented doc.comments)
    (token : doc.source.byte? equals = some 61) (high : equals + 1 ≤ valueStart)
    (valued : doc.source.isBoundary valueStart = true ∧ doc.source.isBoundary (valueStart + 1) = true)
    (none : whitespaceGap doc.source doc.comments (equals + 1) valueStart = none) :
    doc.source.Sliceable (after equals) := by
  have boundary := (Source.isBoundary_of_byte? token (by decide)).2
  rcases Nat.lt_or_eq_of_le high with less | touching
  · obtain ⟨c, listed, starts, _⟩ :=
      commented.exists_of_whitespaceGap_eq_none ⟨high, boundary, valued.1⟩ less none
    have slash := commented.slash listed
    rw [starts] at slash
    exact ⟨Nat.le_succ _, boundary, (Source.isBoundary_of_byte? slash (by decide)).2⟩
  · refine ⟨Nat.le_succ _, boundary, ?_⟩
    have next := valued.2
    rwa [← touching] at next

theorem around_sliceable_iff (usage : Usage) (commented : doc.source.Commented doc.comments)
    (named : doc.source.isBoundary nameStop = true) (low : nameStop ≤ equals)
    (token : doc.source.byte? equals = some 61) (high : equals + 1 ≤ valueStart)
    (valued : doc.source.isBoundary valueStart = true ∧
      doc.source.isBoundary (valueStart + 1) = true) :
    (∀ d ∈ around usage doc nameStop equals valueStart, doc.source.Sliceable d.span) ↔
      (usage = .never →
        ¬ (nameStop < equals ∧ doc.source.WideBefore equals) ∧
          ¬ (equals + 1 < valueStart ∧ doc.source.WideAt (equals + 1))) := by
  obtain ⟨here, behind⟩ := Source.isBoundary_of_byte? token (by decide)
  cases usage with
  | always =>
    refine iff_of_true ?_ nofun
    intro d said
    rcases List.mem_append.mp said with said | said
    · split at said
      · obtain rfl := List.mem_singleton.mp said
        exact ⟨Nat.le_succ _, here, behind⟩
      · cases said
    · split at said
      · rename_i none
        obtain rfl := List.mem_singleton.mp said
        exact sliceable_after commented token high valued (Option.isNone_iff_eq_none.mp none)
      · cases said
  | never =>
    rw [imp_iff_right rfl, ← before_sliceable_iff commented named low token,
      ← after_sliceable_iff commented token high valued.1]
    simp only [around, List.mem_append, List.mem_map, Option.mem_toList, or_imp, forall_and,
      forall_exists_index, and_imp]
    refine and_congr ?_ ?_
    · exact ⟨fun each gap found => each _ gap found rfl, fun each d gap found said =>
        said ▸ each gap found⟩
    · exact ⟨fun each gap found => each _ gap found rfl, fun each d gap found said =>
        said ▸ each gap found⟩

theorem ofAttribute_sliceable_iff (usage : Usage) {a : Attribute}
    (commented : doc.source.Commented doc.comments) (placed : a.Placed doc.source)
    (introduced : a.Introduced doc.source) :
    (∀ d ∈ ofAttribute usage doc a, doc.source.Sliceable d.span) ↔
      (usage = .never → ¬ a.WideBesideEquals doc) := by
  unfold ofAttribute Attribute.WideBesideEquals Attribute.equals?
  split
  · rename_i none
    simp [none]
  · rename_i value given
    rw [given]
    split
    · rename_i missing
      simp [missing]
    · rename_i equals found
      obtain ⟨low, high, token⟩ := findToken_spec found
      rw [around_sliceable_iff usage commented placed.name.stops low
        (Source.byte?_of_hasAt token (k := 0) (by decide)) high (introduced.isBoundary given)]
      simp [found]

theorem mem_equalsSpacing_iff {options : SpacingOptions} {o : Opening} {d : Diagnostic} :
    d ∈ equalsSpacing options doc o ↔
      ∃ usage ∈ options.spacing, ∃ a ∈ o.attributes, d ∈ ofAttribute usage doc a := by
  unfold equalsSpacing
  cases options.spacing <;> simp

end Rule.EqualsSpacing

/-! ### The ends of tags -/

namespace Rule.Alignment

theorem mem_alignment_iff {e : Element} {d : Diagnostic} : d ∈ alignment doc e ↔
    doc.isMultiline e.opening.span = true ∧ ∃ first rest, e.opening.items = first :: rest ∧
      (d ∈ attributes doc e first rest ∨ d ∈ openingEnd doc e (rest.getLastD first) ∨
        d ∈ closing doc e) := by
  unfold alignment
  split
  · rename_i none
    simp [none]
  · rename_i first rest shape
    rw [shape]
    split
    · rename_i multiline
      simp [multiline]
    · rename_i single
      simp [single]

theorem exists_openingEnd_iff {e : Element} : ClosesAstray doc e ↔
    ∃ d, doc.isMultiline e.opening.span = true ∧ ∃ first rest, e.opening.items = first :: rest ∧
      d ∈ openingEnd doc e (rest.getLastD first) := by
  unfold ClosesAstray openingEnd reportIf
  dsimp only
  constructor
  · rintro ⟨multiline, first, rest, shape, astray⟩
    refine ⟨RuleName.jsxAlignment.warning ⟨closeOffset e, closeOffset e + 1⟩ tagClose,
      multiline, first, rest, shape, ?_⟩
    rw [if_pos (by simpa using astray)]
    exact List.mem_singleton_self _
  · rintro ⟨d, multiline, first, rest, shape, said⟩
    refine ⟨multiline, first, rest, shape, ?_⟩
    split at said
    · rename_i astray
      simpa using astray
    · cases said

/-- The end of a tag can be cut out, unless a character of several bytes stands where the `/` is
expected. -/
theorem close_sliceable_iff {e : Element}
    (bracket : doc.source.byte? (e.opening.span.stop - 1) = some 62) :
    doc.source.Sliceable ⟨closeOffset e, closeOffset e + 1⟩ ↔
      ¬ (e.isSelfClosing = true ∧ doc.source.WideBefore (e.opening.span.stop - 1)) := by
  obtain ⟨cut, ends⟩ := Source.isBoundary_of_byte? bracket (by decide)
  unfold closeOffset
  cases selfClosing : e.isSelfClosing with
  | false =>
    refine iff_of_true ⟨Nat.le_succ _, cut, ends⟩ ?_
    rintro ⟨isTrue, _⟩
    cases isTrue
  | true =>
    rw [if_pos rfl]
    rcases Nat.eq_zero_or_pos (e.opening.span.stop - 1) with zero | positive
    · -- The tag is `>` alone, and there is nothing in front of it.
      rw [show e.opening.span.stop - 2 = 0 by omega]
      rw [zero] at cut ends ⊢
      refine iff_of_true ⟨Nat.le_succ _, cut, ends⟩ ?_
      rintro ⟨_, c, found, _⟩
      exact Nat.lt_irrefl _ (Source.isBoundary_pred_iff found).1
    · obtain ⟨c, _, last, _⟩ := Source.exists_charBefore? cut positive
      have size := c.utf8Size_pos
      rw [show e.opening.span.stop - 2 = e.opening.span.stop - 1 - 1 by omega,
        show e.opening.span.stop - 1 - 1 + 1 = e.opening.span.stop - 1 by omega,
        Source.sliceable_before_iff last]
      constructor
      · rintro single ⟨_, c', found, wide⟩
        obtain rfl : c = c' := Option.some.inj (last.symm.trans found)
        omega
      · intro narrow
        by_contra wide
        exact narrow ⟨rfl, c, last, by omega⟩

theorem alignment_sliceable_iff {n : Node} {e : Element} (placed : n.WellPlaced doc.source)
    (delimited : n.WellDelimited doc.source) (view : n.element? = some e) :
    (∀ d ∈ alignment doc e, doc.source.Sliceable d.span) ↔ ¬ WideClose doc e := by
  obtain ⟨_, _, tag, others, parts, isTag, _, _⟩ := element?_eq_some view
  have child : tag ∈ n.children := by rw [parts]; exact List.mem_cons_self
  obtain ⟨kind, _, _, _, same⟩ := opening?_eq_some isTag
  have tagSpan : e.opening.span = tag.span := by rw [same]
  have bracket := ((delimited.child child).root.bracket kind).1
  rw [← tagSpan] at bracket
  have placedElement := placed.element delimited view
  have close := close_sliceable_iff bracket
  have atEnd : ∀ last, ∀ d ∈ openingEnd doc e last, d.span = ⟨closeOffset e, closeOffset e + 1⟩ :=
    fun last d said => mem_spans_reportIf (List.mem_map_of_mem said)
  constructor
  · rintro each ⟨astray, wide⟩
    obtain ⟨d, multiline, first, rest, shape, said⟩ := exists_openingEnd_iff.mp astray
    have sliceable := each d
      (mem_alignment_iff.mpr ⟨multiline, first, rest, shape, Or.inr (Or.inl said)⟩)
    rw [atEnd _ d said] at sliceable
    exact close.mp sliceable wide
  · intro narrow d said
    obtain ⟨multiline, first, rest, shape, said⟩ := mem_alignment_iff.mp said
    rcases said with said | said | said
    · obtain ⟨item, listed, span⟩ := mem_spans_attributes (List.mem_map_of_mem said)
      rw [← shape] at listed
      obtain ⟨c, isItem, view⟩ := mem_items isTag listed
      rw [span, item_span view]
      exact ((placed.child child).child isItem).root.sliceable
    · rw [atEnd _ d said, close]
      intro wide
      exact narrow ⟨exists_openingEnd_iff.mpr ⟨d, multiline, first, rest, shape, said⟩, wide⟩
    · unfold closing at said
      split at said
      · cases said
      · rename_i last found
        have span : d.span = last.span := mem_spans_reportIf (List.mem_map_of_mem said)
        rw [span]
        exact (placedElement.closing last found).1

end Rule.Alignment

/-! ### Braces, parentheses and text -/

namespace Visit

variable {v : Visit} {root : Node}

theorem onBraces_sliceable (options : SpacingOptions) (placed : v.node.WellPlaced doc.source)
    (delimited : v.node.WellDelimited doc.source) :
    ∀ d ∈ v.onBraces (Rule.braceSpacing options doc) (Rule.spreadSpacing options doc),
      doc.source.Sliceable d.span := by
  have tokens : ∀ t : Rule.BraceSpacing.Tokens, doc.source.Sliceable t.first →
      doc.source.Sliceable t.last → ∀ d ∈ Rule.BraceSpacing.check options doc t,
        doc.source.Sliceable d.span := by
    intro t first last d said
    have listed := (Rule.BraceSpacing.spans_check options doc t).mem (List.mem_map_of_mem said)
    rcases List.mem_cons.mp listed with span | listed
    · rwa [span]
    · rwa [List.mem_singleton.mp listed]
  have braces : v.node.kind.isBraced = true →
      doc.source.Sliceable (Rule.BraceSpacing.openBrace v.node.span) ∧
        doc.source.Sliceable (Rule.BraceSpacing.closeBrace v.node.span) := by
    intro braced
    obtain ⟨opened, closed⟩ := delimited.root.isBoundary_braces braced
    have whole := placed.root.sliceable
    exact ⟨⟨Nat.le_succ _, whole.starts, opened⟩, ⟨Nat.sub_le _ _, closed, whole.stops⟩⟩
  have spread : ∀ value : Span, v.node.kind.isBraced = true →
      ∀ t ∈ Rule.BraceSpacing.spreadTokens? doc v.node.span value,
        ∀ d ∈ Rule.BraceSpacing.check options doc t, doc.source.Sliceable d.span := by
    intro value braced t found
    obtain ⟨dots, _, same⟩ := Option.bind_eq_some_iff.mp found
    cases same
    exact tokens _ (braces braced).1 (braces braced).2
  intro d said
  unfold onBraces at said
  split at said
  · rename_i span content shape
    rw [shape] at braces
    unfold Rule.braceSpacing Rule.BraceSpacing.containerTokens at said
    split at said
    · exact tokens _ (braces rfl).1 (braces rfl).2 d said
    · exact tokens _ (braces rfl).1 (braces rfl).2 d said
  · rename_i span value shape
    rw [shape] at spread
    unfold Rule.spreadSpacing at said
    split at said
    · rename_i t found
      exact spread value.span rfl t found d said
    · cases said
  · rename_i span value shape
    rw [shape] at spread
    unfold Rule.spreadSpacing at said
    split at said
    · rename_i t found
      exact spread value.span rfl t found d said
    · cases said
  · cases said

theorem onText_sliceable :
    ∀ d ∈ v.onText (Rule.whitespaceLiteral doc), doc.source.Sliceable d.span := by
  intro d said
  unfold onText at said
  split at said
  · have applicable := Rule.whitespaceLiteral_applicable v.node.span d said
    obtain ⟨run, _, rfl⟩ := List.mem_map.mp said
    exact applicable.sliceable _ (List.mem_singleton_self _)
  · cases said

/-- An element and the parentheses around it leave stretches that can be cut out. -/
theorem wrapMultiline_sliceable (placed : root.WellPlaced doc.source) (visited : v ∈ root.visits) :
    ∀ d ∈ v.onElement fun e => Rule.wrapMultiline doc e v.position, doc.source.Sliceable d.span := by
  intro d said
  unfold onElement at said
  split at said
  · rename_i e view
    have whole := (placed.of_mem (node_mem_preorder visited)).root.sliceable
    have span : e.span = v.node.span := (element?_eq_some view).2.1
    unfold Rule.wrapMultiline at said
    dsimp only at said
    rw [span] at said
    split at said
    · split at said
      · cases said
      · obtain rfl := List.mem_singleton.mp said
        exact whole
      · rename_i paren position
        obtain ⟨parent, above, form, rfl⟩ := position_eq_parenthesized_iff.mp position
        obtain ⟨rest, _, parentVisited⟩ := parent?_visited visited above
        have around := (placed.of_mem (node_mem_preorder parentVisited)).root
        have within := around.inside (parens_plain form).2.2.2.1 v.node
          (mem_children_of_parent? visited above)
        rcases List.mem_append.mp said with said | said
        · split at said
          · obtain rfl := List.mem_singleton.mp said
            exact ⟨within.1, around.sliceable.starts, whole.starts⟩
          · cases said
        · split at said
          · obtain rfl := List.mem_singleton.mp said
            exact ⟨within.2, whole.stops, around.sliceable.stops⟩
          · cases said
    · cases said
  · cases said

end Visit

end JsxCheck
