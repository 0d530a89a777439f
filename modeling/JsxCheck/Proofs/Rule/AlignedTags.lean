import JsxCheck.Proofs.Rule.BesideTokens
import JsxCheck.Proofs.Source.Columns

/-!
Which layouts of a tag are accepted, and what then stands on the lines of its ends.

The rule compares columns with each other and hardly any lines. Since the attributes follow each other in
the text, one column for all of them puts each on a line of its own. A tag that closes itself ends in a
`/` and a `>`, and the rule takes the byte in front of the `>` for the `/`: where something stands between
the two, the layout of another offset is judged.
-/
namespace JsxCheck

/-- The items stand between the `<` and the `>`, each behind the one in front. -/
structure Opening.ItemsInOrder (o : Opening) : Prop where
  solid : ∀ item ∈ o.items, item.span.start < item.span.stop
  inside : ∀ item ∈ o.items, o.span.start < item.span.start ∧ item.span.stop < o.span.stop
  follow : o.items.Pairwise fun i j => i.span.stop ≤ j.span.start

instance (o : Opening) : Decidable o.ItemsInOrder :=
  decidable_of_iff
    ((∀ item ∈ o.items, item.span.start < item.span.stop)
      ∧ (∀ item ∈ o.items, o.span.start < item.span.start ∧ item.span.stop < o.span.stop)
      ∧ o.items.Pairwise fun i j => i.span.stop ≤ j.span.start)
    ⟨fun ⟨a, b, c⟩ => ⟨a, b, c⟩, fun ⟨a, b, c⟩ => ⟨a, b, c⟩⟩

namespace Rule.Alignment

/-- Where the token that closes an opening tag begins: its `>`, or the `/` behind the attributes of a tag
that closes itself. -/
def closeToken? (doc : Document) (e : Element) : Option Nat :=
  if e.isSelfClosing then
    e.opening.items.getLast?.bind fun last =>
      findToken doc.source doc.comments last.span.stop (e.opening.span.stop - 1) "/"
  else some (e.opening.span.stop - 1)

/-- Something stands between the `/` and the `>` of a tag that closes itself. -/
def IsSplit (e : Element) (close : Nat) : Prop :=
  e.isSelfClosing = true ∧ close + 2 ≠ e.opening.span.stop

instance (e : Element) (close : Nat) : Decidable (IsSplit e close) :=
  inferInstanceAs (Decidable (_ ∧ _))

/-- The layout that the rule is to enforce, of a tag that is closed at an offset. -/
structure Aligned (doc : Document) (e : Element) (close : Nat) : Prop where
  below : ∀ item ∈ e.opening.items, doc.line e.opening.span.start < doc.line item.span.start
  separate : e.opening.items.Pairwise fun i j => doc.line i.span.start < doc.line j.span.start
  indented : ∀ item ∈ e.opening.items, indentOf doc e < doc.column item.span.start
  oneColumn : ∀ i ∈ e.opening.items, ∀ j ∈ e.opening.items,
    doc.column i.span.start = doc.column j.span.start
  closeBelow : ∀ last ∈ e.opening.items.getLast?, doc.line last.span.start < doc.line close
  closeFlush : doc.column close = indentOf doc e
  closing : ∀ tag ∈ e.closing, doc.line close < doc.line tag.span.start ∧
    doc.column tag.span.start = indentOf doc e

instance (doc : Document) (e : Element) (close : Nat) : Decidable (Aligned doc e close) :=
  decidable_of_iff
    ((∀ item ∈ e.opening.items, doc.line e.opening.span.start < doc.line item.span.start)
      ∧ (e.opening.items.Pairwise fun i j => doc.line i.span.start < doc.line j.span.start)
      ∧ (∀ item ∈ e.opening.items, indentOf doc e < doc.column item.span.start)
      ∧ (∀ i ∈ e.opening.items, ∀ j ∈ e.opening.items,
          doc.column i.span.start = doc.column j.span.start)
      ∧ (∀ last ∈ e.opening.items.getLast?, doc.line last.span.start < doc.line close)
      ∧ doc.column close = indentOf doc e
      ∧ ∀ tag ∈ e.closing, doc.line close < doc.line tag.span.start ∧
          doc.column tag.span.start = indentOf doc e)
    ⟨fun ⟨a, b, c, d, f, g, h⟩ => ⟨a, b, c, d, f, g, h⟩,
      fun ⟨a, b, c, d, f, g, h⟩ => ⟨a, b, c, d, f, g, h⟩⟩

variable {doc : Document} {e : Element} {first last : AttributeItem} {rest : List AttributeItem}
  {close : Nat}

/-! ### Where nothing is said -/

theorem reportIf_eq_nil_iff {wrong : Bool} {span : Span} {message : String} :
    reportIf wrong span message = [] ↔ wrong = false := by
  cases wrong <;> simp [reportIf]

theorem reportIf_eq_nil_of_quiet {wrong : Bool} {span : Span} {message : String}
    (quiet : ∀ d ∈ reportIf wrong span message, d.message ≠ message) :
    reportIf wrong span message = [] := by
  cases wrong with
  | false => rfl
  | true => exact absurd rfl (quiet _ List.mem_cons_self)

theorem attributes_eq_nil_iff : attributes doc e first rest = [] ↔
    doc.line first.span.start ≠ doc.line e.opening.span.start ∧
      indentOf doc e < doc.column first.span.start ∧
      ∀ item ∈ rest, doc.column item.span.start = doc.column first.span.start := by
  simp only [attributes_eq, firstFaults, faults, List.append_eq_nil_iff, List.flatMap_eq_nil_iff,
    reportIf_eq_nil_iff, beq_eq_false_iff_ne, bne_eq_false_iff_eq, decide_eq_false_iff_not, not_le]
  constructor
  · rintro ⟨⟨below, deep⟩, others⟩
    exact ⟨below, deep, fun item listed => (others item listed).2⟩
  · rintro ⟨below, deep, others⟩
    exact ⟨⟨below, deep⟩, fun item listed => ⟨by rwa [others item listed], others item listed⟩⟩

theorem openingEnd_eq_nil_iff : openingEnd doc e last = [] ↔
    doc.line last.span.start ≠ doc.line (closeOffset e) ∧
      doc.column (closeOffset e) = indentOf doc e := by
  simp [openingEnd, reportIf_eq_nil_iff]

theorem closing_eq_nil_iff : closing doc e = [] ↔
    ∀ tag ∈ e.closing, doc.line (closeOffset e) < doc.line tag.span.start ∧
      doc.column tag.span.start = indentOf doc e := by
  unfold closing
  split <;> simp_all [reportIf_eq_nil_iff]

theorem alignment_eq_nil_iff (multiline : doc.isMultiline e.opening.span = true)
    (shape : e.opening.items = first :: rest) : alignment doc e = [] ↔
      attributes doc e first rest = [] ∧ openingEnd doc e (rest.getLastD first) = [] ∧
        closing doc e = [] := by
  simp [alignment, shape, multiline]

theorem closing_eq_nil_of_quiet (quiet : ∀ d ∈ closing doc e, d.message ≠ closingTag) :
    closing doc e = [] := by
  unfold closing at quiet ⊢
  cases found : e.closing with
  | none => rfl
  | some tag =>
    rw [found] at quiet
    exact reportIf_eq_nil_of_quiet quiet

/-! ### The end of an opening tag -/

theorem closeToken?_eq_some (token : closeToken? doc e = some close) :
    (e.isSelfClosing = false ∧ close = e.opening.span.stop - 1) ∨
      (e.isSelfClosing = true ∧ doc.source.byte? close = some 47 ∧
        close + 2 ≤ e.opening.span.stop ∧
        ∀ last ∈ e.opening.items.getLast?, last.span.stop ≤ close) := by
  unfold closeToken? at token
  split at token
  · rename_i selfClosing
    obtain ⟨last, isLast, found⟩ := Option.bind_eq_some_iff.mp token
    obtain ⟨low, high, here⟩ := findToken_spec found
    have slash := Source.byte?_of_hasAt here (k := 0) (by decide)
    have width : "/".utf8ByteSize = 1 := by decide
    refine Or.inr ⟨selfClosing, slash, by omega, ?_⟩
    intro last' isLast'
    cases isLast.symm.trans isLast'
    exact low
  · rename_i paired
    exact Or.inl ⟨Bool.not_eq_true _ ▸ paired, (Option.some.inj token).symm⟩

theorem closeOffset_eq (token : closeToken? doc e = some close) (whole : ¬ IsSplit e close) :
    closeOffset e = close := by
  unfold closeOffset
  rcases closeToken?_eq_some token with ⟨paired, rfl⟩ | ⟨selfClosing, _, room, _⟩
  · rw [paired]
    rfl
  · have adjacent : close + 2 = e.opening.span.stop := by
      by_contra apart
      exact whole ⟨selfClosing, apart⟩
    rw [selfClosing, if_pos rfl]
    omega

theorem closeOffset_of_split (split : IsSplit e close) : closeOffset e = e.opening.span.stop - 2 := by
  rw [closeOffset, split.1]
  rfl

theorem lt_closeOffset (token : closeToken? doc e = some close) (split : IsSplit e close) :
    close < e.opening.span.stop - 2 := by
  obtain ⟨selfClosing, apart⟩ := split
  rcases closeToken?_eq_some token with ⟨paired, _⟩ | ⟨_, _, room, _⟩
  · rw [selfClosing] at paired
    cases paired
  · omega

theorem start_le_getLast {item : AttributeItem} (ordered : e.opening.ItemsInOrder)
    (listed : item ∈ e.opening.items) (isLast : last ∈ e.opening.items.getLast?) :
    item.span.start ≤ last.span.start := by
  obtain ⟨front, shape⟩ := List.getLast?_eq_some_iff.mp isLast
  have follow := ordered.follow
  rw [shape, List.pairwise_append] at follow
  rw [shape] at listed
  rcases List.mem_append.mp listed with early | same
  · have before := follow.2.2 item early last (List.mem_singleton_self last)
    have solid := ordered.solid item (by rw [shape]; exact List.mem_append_left _ early)
    omega
  · rw [List.mem_singleton.mp same]

theorem getLast?_items (shape : e.opening.items = first :: rest) :
    e.opening.items.getLast? = some (rest.getLastD first) := by
  rw [shape, List.getLast?_cons, List.getLastD_eq_getLast?]

/-- The last item ends in front of the offset that the rule takes for the end of the tag. -/
theorem stop_le_closeOffset (ordered : e.opening.ItemsInOrder) (token : closeToken? doc e = some close)
    (isLast : last ∈ e.opening.items.getLast?) : last.span.stop ≤ closeOffset e := by
  have inside := (ordered.inside last (List.mem_of_getLast? isLast)).2
  unfold closeOffset
  rcases closeToken?_eq_some token with ⟨paired, _⟩ | ⟨selfClosing, _, room, behind⟩
  · rw [paired, if_neg Bool.false_ne_true]
    omega
  · have low := behind last isLast
    rw [selfClosing, if_pos rfl]
    omega

/-! ### Layouts -/

/-- Items in one column are on different lines, and below the tag when the first one is. -/
theorem alignment_eq_nil_iff_aligned (indexed : doc.lines = .ofSource doc.source)
    (multiline : doc.isMultiline e.opening.span = true)
    (filled : e.opening.items ≠ []) (ordered : e.opening.ItemsInOrder)
    (behind : ∀ last ∈ e.opening.items.getLast?, last.span.stop ≤ closeOffset e) :
    alignment doc e = [] ↔ Aligned doc e (closeOffset e) := by
  obtain ⟨first, rest, shape⟩ := List.exists_cons_of_ne_nil filled
  have isLast := getLast?_items shape
  have isFirst : first ∈ e.opening.items := by rw [shape]; exact List.mem_cons_self
  rw [alignment_eq_nil_iff multiline shape, attributes_eq_nil_iff, openingEnd_eq_nil_iff,
    closing_eq_nil_iff]
  constructor
  · rintro ⟨⟨offLine, deep, others⟩, ⟨offClose, flush⟩, closing⟩
    have column : ∀ item ∈ e.opening.items,
        doc.column item.span.start = doc.column first.span.start := by
      rw [shape]
      exact List.forall_mem_cons.mpr ⟨rfl, others⟩
    have firstBelow : doc.line e.opening.span.start < doc.line first.span.start :=
      Nat.lt_of_le_of_ne (Document.line_mono indexed (Nat.le_of_lt (ordered.inside first isFirst).1))
        (Ne.symm offLine)
    -- The first item is below the tag and all others follow it. No two are on one line in one column.
    refine ⟨?_, ?_, fun item listed => by rwa [column item listed],
      fun i listed j listed' => (column i listed).trans (column j listed').symm, ?_, flush, closing⟩
    · rw [shape]
      refine List.forall_mem_cons.mpr ⟨firstBelow, fun item listed => ?_⟩
      have follow := ordered.follow
      rw [shape] at follow
      have later := (List.pairwise_cons.mp follow).1 item listed
      have solid := ordered.solid first isFirst
      exact Nat.lt_of_lt_of_le firstBelow (Document.line_mono indexed (by omega))
    · refine ordered.follow.imp_of_mem fun {i j} listed listed' later => ?_
      have solid := ordered.solid i listed
      exact Document.line_lt_of_column_eq indexed (by omega)
        ((column i listed).trans (column j listed').symm)
    · rw [isLast]
      rintro last ⟨⟩
      have solid := ordered.solid _ (List.mem_of_getLast? isLast)
      have early := behind _ isLast
      exact Nat.lt_of_le_of_ne (Document.line_mono indexed (by omega)) offClose
  · rintro ⟨below, _, deep, same, closeBelow, flush, closing⟩
    refine ⟨⟨(Nat.ne_of_lt (below first isFirst)).symm, deep first isFirst, ?_⟩,
      ⟨Nat.ne_of_lt (closeBelow _ isLast), flush⟩, closing⟩
    intro item listed
    have listed' : item ∈ e.opening.items := by rw [shape]; exact List.mem_cons_of_mem _ listed
    exact same item listed' first isFirst

/-- Nothing is reported of a tag over several lines exactly when it is aligned, for a tag that is closed
by `>` or by `/>` in one piece. Where the `/` stands apart from the `>`, the rule judges the byte in front
of the `>` in place of the `/`, and reports aligned tags that have the two bytes on one line. -/
theorem alignment_silent_iff (indexed : doc.lines = .ofSource doc.source)
    (multiline : doc.isMultiline e.opening.span = true)
    (filled : e.opening.items ≠ []) (ordered : e.opening.ItemsInOrder)
    (token : closeToken? doc e = some close) :
    (¬ IsSplit e close → (alignment doc e = [] ↔ Aligned doc e close)) ∧
      (IsSplit e close → close < e.opening.span.stop - 2 ∧
        (alignment doc e = [] ↔ Aligned doc e (e.opening.span.stop - 2)) ∧
        (doc.line close = doc.line (e.opening.span.stop - 2) → Aligned doc e close →
          alignment doc e ≠ [])) := by
  have judged := alignment_eq_nil_iff_aligned indexed multiline filled ordered fun last isLast =>
    stop_le_closeOffset ordered token isLast
  constructor
  · intro whole
    rwa [closeOffset_eq token whole] at judged
  · intro split
    have apart := lt_closeOffset token split
    rw [closeOffset_of_split split] at judged
    refine ⟨apart, judged, fun oneLine aligned silent => ?_⟩
    have flush := (judged.mp silent).closeFlush
    have lower := Document.line_lt_of_column_eq indexed apart (aligned.closeFlush.trans flush.symm)
    omega

/-- A tag that is aligned, with a line break between its `/` and its `>`. -/
def splitTagText : String := "<Foo\n    a\n/\n>;"

set_option maxRecDepth 100000 in
theorem alignment_silent_iff_of_splitTagText :
    ∃ program, Program.parse ⟨splitTagText⟩ .tsx = .ok program ∧
      ∃ n ∈ program.root.preorder, ∃ e ∈ n.element?,
        ∃ close ∈ closeToken? (.ofText splitTagText .tsx none program.comments) e,
          IsSplit e close ∧ Aligned (.ofText splitTagText .tsx none program.comments) e close ∧
            alignment (.ofText splitTagText .tsx none program.comments) e ≠ [] := by
  have parsed : ∃ program, Program.parse ⟨splitTagText⟩ .tsx = .ok program ∧
      ∃ n ∈ program.root.preorder, ∃ e ∈ n.element?,
        ∃ close ∈ closeToken? (.ofText splitTagText .tsx none program.comments) e,
          (IsSplit e close ∧ Aligned (.ofText splitTagText .tsx none program.comments) e close) ∧
          ((Document.ofText splitTagText .tsx none program.comments).isMultiline e.opening.span
            = true ∧ e.opening.items.isEmpty = false ∧ e.opening.ItemsInOrder) ∧
          (Document.ofText splitTagText .tsx none program.comments).line close =
            (Document.ofText splitTagText .tsx none program.comments).line (e.opening.span.stop - 2) :=
    Program.exists_parse (by decide +kernel)
  obtain ⟨program, parse, n, inside, e, view, close, token, ⟨split, aligned⟩,
    ⟨multiline, filled, ordered⟩, oneLine⟩ := parsed
  have judged := alignment_silent_iff rfl multiline (by simpa using filled) ordered token
  exact ⟨program, parse, n, inside, e, view, close, token, split, aligned,
    (judged.2 split).2.2 oneLine aligned⟩

/-! ### What stands on the line of an end -/

theorem closes_of_quiet (multiline : doc.isMultiline e.opening.span = true)
    (shape : e.opening.items = first :: rest)
    (quiet : ∀ d ∈ alignment doc e, d.message ≠ tagClose ∧ d.message ≠ closingTag) :
    openingEnd doc e (rest.getLastD first) = [] ∧ closing doc e = [] := by
  have told : ∀ d, d ∈ openingEnd doc e (rest.getLastD first) ∨ d ∈ closing doc e →
      d.message ≠ tagClose ∧ d.message ≠ closingTag :=
    fun d said => quiet d (mem_alignment_iff.mpr ⟨multiline, first, rest, shape, Or.inr said⟩)
  exact ⟨reportIf_eq_nil_of_quiet fun d said => (told d (Or.inl said)).1,
    closing_eq_nil_of_quiet fun d said => (told d (Or.inr said)).2⟩

theorem solid_closeToken (token : closeToken? doc e = some close)
    (bracket : doc.source.byte? (e.opening.span.stop - 1) = some 62) :
    (doc.source.byte? close).any LineIndex.isIndentByte = false := by
  rcases closeToken?_eq_some token with ⟨_, rfl⟩ | ⟨_, slash, _⟩
  · rw [bracket]
    rfl
  · rw [slash]
    rfl

/-- Let nothing be said of the ends of the tags. Then no attribute starts on the line of the tag close,
and nothing of the opening tag is on the line of the closing tag, but other text may stand in front of
either: each opens its line exactly when the line is indented as the one of the opening tag is. Of a `/`
apart from its `>` nothing is ensured but that it is in front of that column if it is on the line of the
byte that is judged in its place. -/
theorem opensLine_iff_of_quiet (indexed : doc.lines = .ofSource doc.source)
    (multiline : doc.isMultiline e.opening.span = true)
    (filled : e.opening.items ≠ []) (ordered : e.opening.ItemsInOrder)
    (token : closeToken? doc e = some close)
    (bracket : doc.source.byte? (e.opening.span.stop - 1) = some 62)
    (angle : ∀ tag ∈ e.closing, doc.source.byte? tag.span.start = some 60)
    (quiet : ∀ d ∈ alignment doc e, d.message ≠ tagClose ∧ d.message ≠ closingTag) :
    (¬ IsSplit e close →
      (∀ item ∈ e.opening.items, item.span.start < doc.lines.lineStart (doc.line close)) ∧
        (doc.OpensLine close ↔
          doc.lines.indent doc.source (doc.line close) = indentOf doc e)) ∧
      (IsSplit e close → doc.line close = doc.line (e.opening.span.stop - 2) →
        doc.column close < indentOf doc e) ∧
      ∀ tag ∈ e.closing,
        e.opening.span.stop ≤ doc.lines.lineStart (doc.line tag.span.start) ∧
          (doc.OpensLine tag.span.start ↔
            doc.lines.indent doc.source (doc.line tag.span.start) = indentOf doc e) := by
  obtain ⟨first, rest, shape⟩ := List.exists_cons_of_ne_nil filled
  obtain ⟨silentEnd, silentClosing⟩ := closes_of_quiet multiline shape quiet
  obtain ⟨offClose, flush⟩ := openingEnd_eq_nil_iff.mp silentEnd
  refine ⟨fun whole => ?_, fun split oneLine => ?_, fun tag isClosing => ?_⟩
  · have isLast := getLast?_items shape
    have early := stop_le_closeOffset ordered token isLast
    rw [closeOffset_eq token whole] at offClose flush early
    have solidLast := ordered.solid _ (List.mem_of_getLast? isLast)
    have lastBelow : doc.line (rest.getLastD first).span.start < doc.line close :=
      Nat.lt_of_le_of_ne (Document.line_mono indexed (by omega)) offClose
    constructor
    · intro item listed
      refine Nat.lt_of_le_of_lt ?_ (Document.lt_lineStart indexed lastBelow)
      exact start_le_getLast ordered listed isLast
    · rw [← flush]
      exact Document.opensLine_iff indexed (solid_closeToken token bracket)
  · have apart := lt_closeOffset token split
    rw [closeOffset_of_split split] at flush
    have here := Document.lineStart_add_column indexed close
    have there := Document.lineStart_add_column indexed (e.opening.span.stop - 2)
    rw [oneLine] at here
    omega
  · obtain ⟨lower, flushTag⟩ := closing_eq_nil_iff.mp silentClosing tag isClosing
    -- The offset judged is the `>`, so all of the opening tag is above the line of the closing tag.
    have paired : e.isSelfClosing = false := by
      rw [Element.isSelfClosing, isClosing]
      rfl
    have behind := Document.lt_lineStart indexed lower
    rw [closeOffset, paired, if_neg Bool.false_ne_true] at behind
    refine ⟨by omega, ?_⟩
    rw [← flushTag]
    exact Document.opensLine_iff indexed (by rw [angle tag isClosing]; rfl)

/-- The tail of an attribute in front of a tag close, and text in front of a closing tag. -/
def tailsText : String := "  <Foo\n    a=\"\nb\">\ncd</Foo>;"

set_option maxRecDepth 100000 in
set_option synthInstance.maxSize 400 in
theorem opensLine_iff_of_quiet_of_tailsText :
    ∃ program, Program.parse ⟨tailsText⟩ .tsx = .ok program ∧
      ∃ n ∈ program.root.preorder, ∃ e ∈ n.element?,
        ∃ close ∈ closeToken? (.ofText tailsText .tsx none program.comments) e,
          alignment (.ofText tailsText .tsx none program.comments) e = [] ∧
            ¬ (Document.ofText tailsText .tsx none program.comments).OpensLine close ∧
            ∃ tag ∈ e.closing,
              ¬ (Document.ofText tailsText .tsx none program.comments).OpensLine tag.span.start := by
  have parsed : ∃ program, Program.parse ⟨tailsText⟩ .tsx = .ok program ∧
      ∃ n ∈ program.root.preorder, ∃ e ∈ n.element?,
        ∃ close ∈ closeToken? (.ofText tailsText .tsx none program.comments) e,
          (alignment (.ofText tailsText .tsx none program.comments) e).isEmpty = true ∧
          ((Document.ofText tailsText .tsx none program.comments).isMultiline e.opening.span
            = true ∧ e.opening.items.isEmpty = false ∧ e.opening.ItemsInOrder ∧
            (Source.mk tailsText).byte? (e.opening.span.stop - 1) = some 62 ∧
            ∀ tag ∈ e.closing, (Source.mk tailsText).byte? tag.span.start = some 60) ∧
          (¬ IsSplit e close ∧
            (LineIndex.ofSource ⟨tailsText⟩).indent ⟨tailsText⟩
              ((LineIndex.ofSource ⟨tailsText⟩).line close) ≠
              indentOf (.ofText tailsText .tsx none program.comments) e) ∧
          ∃ tag ∈ e.closing, (LineIndex.ofSource ⟨tailsText⟩).indent ⟨tailsText⟩
              ((LineIndex.ofSource ⟨tailsText⟩).line tag.span.start) ≠
              indentOf (.ofText tailsText .tsx none program.comments) e :=
    Program.exists_parse (by decide +kernel)
  obtain ⟨program, parse, n, inside, e, view, close, token, silent,
    ⟨multiline, filled, ordered, bracket, angle⟩, ⟨whole, shallow⟩, tag, isClosing, shallowTag⟩ := parsed
  have none : alignment (.ofText tailsText .tsx .none program.comments) e = [] := by simpa using silent
  have judged := opensLine_iff_of_quiet rfl multiline (by simpa using filled) ordered token bracket
    angle (by rw [none]; nofun)
  exact ⟨program, parse, n, inside, e, view, close, token, none,
    (judged.1 whole).2.not.mpr shallow, tag, isClosing, (judged.2.2 tag isClosing).2.not.mpr shallowTag⟩

end Rule.Alignment

end JsxCheck
