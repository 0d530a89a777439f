import JsxCheck.Proofs.Rule.BesideTokens

/-!
Comments that fixes of spacing keep.

Where space is refused, a fix replaces it by the comments in it. The break that ended a line comment is
part of the space, so a line comment that is kept runs on into the next token. Around `=` every line
comment is kept. In braces none is kept where a line feed stands between the tokens, which leaves those
that end with another line terminator.
-/
namespace JsxCheck

open Node Visit

/-- The text that a fix puts in place of another still holds a comment. -/
structure Fix.Keeps (doc : Document) (f : Fix) (comment : Span) : Prop where
  listed : comment ∈ doc.comments
  within : f.span.start ≤ comment.start ∧ comment.stop ≤ f.span.stop
  kept : (doc.text comment).toList <:+: f.replacement.toList

/-- A fix of a diagnostic keeps a line comment. -/
def Diagnostic.KeepsLineComment (doc : Document) (d : Diagnostic) : Prop :=
  ∃ f ∈ d.fixes, ∃ comment, f.Keeps doc comment ∧ doc.source.hasAt "//" comment.start = true

/-- A line comment stands between the name of an attribute and its value. -/
def Attribute.LineCommentAroundEquals (doc : Document) (a : Attribute) : Prop :=
  ∃ value ∈ a.value, (a.equals? doc).isSome = true ∧
    doc.source.HasLineComment doc.comments a.nameSpan.stop value.span.start

/-- The tokens of braces whose space is checked. -/
def Node.braceTokens? (doc : Document) : Node → Option Rule.BraceSpacing.Tokens
  | .mk .jsxContainer span [content] =>
    some (Rule.BraceSpacing.containerTokens span (if content.isExpr then some content.span else none))
  | .mk .jsxSpreadAttribute span [argument] => Rule.BraceSpacing.spreadTokens? doc span argument.span
  | .mk .jsxSpreadChild span [argument] => Rule.BraceSpacing.spreadTokens? doc span argument.span
  | _ => none

/-- A line comment stands behind `{` or in front of `}`, and no line feed from the brace to the far end
of the token beside it. -/
def Rule.BraceSpacing.Tokens.LineCommentOnOneLine (doc : Document) (t : Tokens) : Prop :=
  (doc.source.HasLineComment doc.comments t.first.stop t.second.start ∧
      ¬ doc.source.CrossesLine ⟨t.first.start, t.second.stop⟩) ∨
    (t.first ≠ t.secondToLast ∧
      doc.source.HasLineComment doc.comments t.secondToLast.stop t.last.start ∧
      ¬ doc.source.CrossesLine ⟨t.secondToLast.start, t.last.stop⟩)

/-- Every expression begins with a character, and none with the end of a line. -/
def Node.WellBegun (source : Source) (root : Node) : Prop :=
  ∀ n ∈ root.preorder, n.isExpr = true →
    (source.char? n.span.start).any (!isLineTerminator ·) = true

instance (source : Source) (root : Node) : Decidable (root.WellBegun source) :=
  inferInstanceAs (Decidable (∀ n ∈ root.preorder, _))

variable {doc : Document}

/-! ### Gaps and their comments -/

theorem infix_join {texts : List String} {t : String} (member : t ∈ texts) :
    t.toList <:+: (String.join texts).toList := by
  obtain ⟨front, back, rfl⟩ := List.append_of_mem member
  rw [String.toList_join, List.flatMap_append, List.flatMap_cons, ← List.append_assoc]
  exact List.infix_append _ _ _

/-- The comments of a gap in front of a token are kept, and a line comment makes a gap. -/
theorem exists_keeping_gap_iff (commented : doc.source.Commented doc.comments) {start stop : Nat}
    (starts : doc.source.isBoundary start = true) {x : Char} (token : doc.source.char? stop = some x)
    (sameLine : isLineTerminator x = false) :
    (∃ gap ∈ whitespaceGap doc.source doc.comments start stop, ∃ comment,
        Fix.Keeps doc ⟨gap.span, gap.comments, none⟩ comment ∧
          doc.source.hasAt "//" comment.start = true) ↔
      doc.source.HasLineComment doc.comments start stop := by
  constructor
  · rintro ⟨gap, found, comment, keeps, line⟩
    obtain ⟨_, rfl⟩ := whitespaceGap_eq found
    exact ⟨comment, keeps.listed, line, keeps.within⟩
  · intro held
    have found := commented.whitespaceGap_of_lineComment starts token sameLine held
    obtain ⟨comment, listed, line, low, high⟩ := held
    have inside := commented.arranged.mem_commentsWithin.mpr ⟨listed, low, high⟩
    exact ⟨_, found, comment, ⟨listed, ⟨low, high⟩, infix_join (List.mem_map_of_mem inside)⟩, line⟩

/-- An insertion replaces nothing, so it keeps nothing. -/
theorem not_keepsLineComment_insert (commented : doc.source.Commented doc.comments) {d : Diagnostic}
    {offset : Nat} {text : String} (only : d.fixes = [.insert offset text]) :
    ¬ d.KeepsLineComment doc := by
  rintro ⟨f, fix, comment, keeps, _⟩
  rw [only] at fix
  obtain rfl := List.mem_singleton.mp fix
  have long := commented.long comment keeps.listed
  have within : offset ≤ comment.start ∧ comment.stop ≤ offset := keeps.within
  omega

/-- Diagnostics about a gap keep what the gap does. -/
theorem exists_keepsLineComment_iff {found : Option Gap} {say : Gap → Diagnostic}
    (only : ∀ gap, (say gap).fixes = [⟨gap.span, gap.comments, none⟩]) :
    (∃ d ∈ found.toList.map say, d.KeepsLineComment doc) ↔
      ∃ gap ∈ found, ∃ comment, Fix.Keeps doc ⟨gap.span, gap.comments, none⟩ comment ∧
        doc.source.hasAt "//" comment.start = true := by
  simp only [List.mem_map, Option.mem_toList]
  constructor
  · rintro ⟨_, ⟨gap, present, rfl⟩, f, fix, keeps⟩
    rw [only] at fix
    obtain rfl := List.mem_singleton.mp fix
    exact ⟨gap, present, keeps⟩
  · rintro ⟨gap, present, keeps⟩
    exact ⟨_, ⟨gap, present, rfl⟩, _, by rw [only]; exact List.mem_singleton_self _, keeps⟩

/-! ### Space around `=` -/

namespace Rule.EqualsSpacing

variable {nameStop equals valueStart : Nat}

/-- A comment that does not hold the `=` is on one side of it. -/
theorem hasLineComment_iff (commented : doc.source.Commented doc.comments)
    (low : nameStop ≤ equals) (high : equals + 1 ≤ valueStart)
    (outside : ∀ c ∈ doc.comments, ¬ (c.start ≤ equals ∧ equals < c.stop)) :
    doc.source.HasLineComment doc.comments nameStop valueStart ↔
      doc.source.HasLineComment doc.comments nameStop equals ∨
        doc.source.HasLineComment doc.comments (equals + 1) valueStart := by
  constructor
  · rintro ⟨c, listed, line, after, before⟩
    have apart := outside c listed
    have long := commented.long c listed
    by_cases ahead : c.stop ≤ equals
    · exact Or.inl ⟨c, listed, line, after, ahead⟩
    · exact Or.inr ⟨c, listed, line, by omega, before⟩
  · rintro (⟨c, listed, line, after, before⟩ | ⟨c, listed, line, after, before⟩)
    · exact ⟨c, listed, line, after, by omega⟩
    · exact ⟨c, listed, line, by omega, before⟩

theorem around_keeps_iff (usage : Usage) (commented : doc.source.Commented doc.comments)
    (named : doc.source.isBoundary nameStop = true) (low : nameStop ≤ equals)
    (token : doc.source.byte? equals = some 61) (high : equals + 1 ≤ valueStart)
    (outside : ∀ c ∈ doc.comments, ¬ (c.start ≤ equals ∧ equals < c.stop))
    {x : Char} (first : doc.source.char? valueStart = some x) (sameLine : isLineTerminator x = false) :
    (∃ d ∈ around usage doc nameStop equals valueStart, d.KeepsLineComment doc) ↔
      usage = .never ∧ doc.source.HasLineComment doc.comments nameStop valueStart := by
  have behind := (Source.isBoundary_of_byte? token (by decide)).2
  cases usage with
  | always =>
    refine iff_of_false ?_ (fun ⟨never, _⟩ => by cases never)
    rintro ⟨d, said, keeps⟩
    rcases List.mem_append.mp said with said | said
    · split at said
      · obtain rfl := List.mem_singleton.mp said
        exact not_keepsLineComment_insert commented rfl keeps
      · cases said
    · split at said
      · obtain rfl := List.mem_singleton.mp said
        exact not_keepsLineComment_insert commented rfl keeps
      · cases said
  | never =>
    have here : doc.source.char? equals = some '=' :=
      Source.char?_eq_of_byte? token (by decide) (by decide)
    rw [eq_self_iff_true, true_and, hasLineComment_iff commented low high outside,
      ← exists_keeping_gap_iff commented named here (by decide),
      ← exists_keeping_gap_iff commented behind first sameLine]
    simp only [around, List.mem_append, or_and_right, exists_or]
    exact or_congr (exists_keepsLineComment_iff fun _ => rfl) (exists_keepsLineComment_iff fun _ => rfl)

theorem ofAttribute_keeps_iff (usage : Usage) {a : Attribute}
    (commented : doc.source.Commented doc.comments) (placed : a.Placed doc.source)
    (introduced : a.Introduced doc.source) :
    (∃ d ∈ ofAttribute usage doc a, d.KeepsLineComment doc) ↔
      usage = .never ∧ a.LineCommentAroundEquals doc := by
  unfold ofAttribute Attribute.LineCommentAroundEquals Attribute.equals?
  split
  · rename_i none
    simp [none]
  · rename_i value given
    obtain ⟨x, first, _, sameLine⟩ := introduced.char? given
    rw [given]
    split
    · rename_i missing
      simp [missing]
    · rename_i equals found
      obtain ⟨low, high, token⟩ := findToken_spec found
      rw [around_keeps_iff usage commented placed.name.stops low
        (Source.byte?_of_hasAt token (k := 0) (by decide)) high (not_contains_of_findToken found)
        first sameLine]
      simp [found]

end Rule.EqualsSpacing

/-! ### Space in braces -/

namespace Rule.BraceSpacing

/-- The tokens stand in the text, each with a character in front of which a comment ends its line. -/
structure Tokens.Placed (source : Source) (t : Tokens) : Prop where
  ordered : ∀ s ∈ [t.first, t.second, t.secondToLast, t.last], s.start ≤ s.stop
  opened : source.isBoundary t.first.stop = true
  second : ∃ x, source.char? t.second.start = some x ∧ isLineTerminator x = false
  secondToLast : source.isBoundary t.secondToLast.stop = true
  last : ∃ x, source.char? t.last.start = some x ∧ isLineTerminator x = false
  front : source.Sliceable ⟨t.first.start, t.second.stop⟩
  back : source.Sliceable ⟨t.secondToLast.start, t.last.stop⟩

theorem mem_forbidden_iff {t : Tokens} {d : Diagnostic} : d ∈ forbidden doc t ↔
    (∃ gap ∈ leading doc t, isMultilineText (doc.text ⟨t.first.start, t.second.stop⟩) = false ∧
      d = warning t.first "There should be no space after \x7b" [⟨gap.span, gap.comments, none⟩]) ∨
    (∃ gap ∈ trailing doc t, isMultilineText (doc.text ⟨t.secondToLast.start, t.last.stop⟩) = false ∧
      d = warning t.last "There should be no space before \x7d"
        (if t.first = t.secondToLast then [] else [⟨gap.span, gap.comments, none⟩])) := by
  rw [forbidden, List.mem_append]
  refine or_congr ?_ ?_
  · cases leading doc t with
    | none => simp
    | some gap => cases isMultilineText (doc.text ⟨t.first.start, t.second.stop⟩) <;> simp
  · cases trailing doc t with
    | none => simp
    | some gap => cases isMultilineText (doc.text ⟨t.secondToLast.start, t.last.stop⟩) <;> simp

theorem forbidden_keeps_iff (commented : doc.source.Commented doc.comments) {t : Tokens}
    (placed : t.Placed doc.source) :
    (∃ d ∈ forbidden doc t, d.KeepsLineComment doc) ↔ t.LineCommentOnOneLine doc := by
  obtain ⟨x, second, sameLine⟩ := placed.second
  obtain ⟨y, last, sameLine'⟩ := placed.last
  rw [Tokens.LineCommentOnOneLine,
    ← exists_keeping_gap_iff commented placed.opened second sameLine,
    ← exists_keeping_gap_iff commented placed.secondToLast last sameLine',
    ← isMultilineText_text_iff placed.front, ← isMultilineText_text_iff placed.back,
    Bool.not_eq_true, Bool.not_eq_true]
  simp only [mem_forbidden_iff, or_and_right, exists_or]
  refine or_congr ?_ ?_
  · constructor
    · rintro ⟨_, ⟨gap, found, single, rfl⟩, f, fix, keeps⟩
      obtain rfl := List.mem_singleton.mp fix
      exact ⟨⟨gap, found, keeps⟩, single⟩
    · rintro ⟨⟨gap, found, keeps⟩, single⟩
      exact ⟨_, ⟨gap, found, single, rfl⟩, _, List.mem_singleton_self _, keeps⟩
  · constructor
    · rintro ⟨_, ⟨gap, found, single, rfl⟩, f, fix, keeps⟩
      -- In `{ }` there is one gap, and the diagnostic at `}` leaves it to the other.
      by_cases same : t.first = t.secondToLast
      · rw [if_pos same] at fix
        cases fix
      · rw [if_neg same] at fix
        obtain rfl := List.mem_singleton.mp fix
        exact ⟨same, ⟨gap, found, keeps⟩, single⟩
    · rintro ⟨differ, ⟨gap, found, keeps⟩, single⟩
      refine ⟨_, ⟨gap, found, single, rfl⟩, ⟨gap.span, gap.comments, none⟩, ?_, keeps⟩
      rw [if_neg differ]
      exact List.mem_singleton_self _

theorem check_keeps_iff (options : SpacingOptions) (commented : doc.source.Commented doc.comments)
    {t : Tokens} (placed : t.Placed doc.source) :
    (∃ d ∈ check options doc t, d.KeepsLineComment doc) ↔
      options.spacing = some .never ∧ t.LineCommentOnOneLine doc := by
  unfold check
  split
  · rename_i always
    refine iff_of_false ?_ (fun ⟨never, _⟩ => by rw [always] at never; cases never)
    rintro ⟨d, said, keeps⟩
    rcases List.mem_append.mp said with said | said
    · split at said
      · obtain rfl := List.mem_singleton.mp said
        exact not_keepsLineComment_insert commented rfl keeps
      · cases said
    · split at said
      · obtain rfl := List.mem_singleton.mp said
        exact not_keepsLineComment_insert commented rfl keeps
      · cases said
  · rename_i never
    rw [forbidden_keeps_iff commented placed, never, eq_self_iff_true, true_and]
  · rename_i unset
    simp [unset]

/-- A line comment under a gap ends with another terminator where no line feed stands. -/
theorem terminator_ne_lineFeed (commented : doc.source.Commented doc.comments) {start stop : Nat}
    {span comment : Span} {x : Char} (token : doc.source.char? stop = some x)
    (sameLine : isLineTerminator x = false) (listed : comment ∈ doc.comments)
    (line : doc.source.hasAt "//" comment.start = true)
    (within : start ≤ comment.start ∧ comment.stop ≤ stop) (single : ¬ doc.source.CrossesLine span)
    (around : span.start ≤ start ∧ stop ≤ span.stop) :
    ∃ y, doc.source.char? comment.stop = some y ∧ isLineTerminator y = true ∧ y ≠ '\n' := by
  obtain ⟨before, y, found, ends⟩ := commented.lineTerminator listed line token sameLine within.2
  have long := commented.long comment listed
  refine ⟨y, found, ends, ?_⟩
  -- A line feed there would stand under the span.
  rintro rfl
  exact single ⟨comment.stop, by omega, by omega, by rw [Source.byte?_of_char? found]; rfl⟩

theorem check_kept_terminator (options : SpacingOptions)
    (commented : doc.source.Commented doc.comments) {t : Tokens} (placed : t.Placed doc.source)
    {d : Diagnostic} {f : Fix} {comment : Span} (said : d ∈ check options doc t) (fix : f ∈ d.fixes)
    (keeps : f.Keeps doc comment) (line : doc.source.hasAt "//" comment.start = true) :
    ∃ y, doc.source.char? comment.stop = some y ∧ isLineTerminator y = true ∧ y ≠ '\n' := by
  obtain ⟨x, second, sameLine⟩ := placed.second
  obtain ⟨x', last, sameLine'⟩ := placed.last
  have ordered := placed.ordered
  simp only [List.forall_mem_cons, List.not_mem_nil, IsEmpty.forall_iff, implies_true,
    and_true] at ordered
  obtain ⟨first, secondOrder, secondToLast, lastOrder⟩ := ordered
  have never : options.spacing = some .never :=
    ((check_keeps_iff options commented placed).mp ⟨d, said, f, fix, comment, keeps, line⟩).1
  rw [check, never] at said
  rcases mem_forbidden_iff.mp said with ⟨gap, found, single, rfl⟩ | ⟨gap, found, single, rfl⟩
  · have oneLine : ¬ doc.source.CrossesLine ⟨t.first.start, t.second.stop⟩ := by
      rw [← isMultilineText_text_iff placed.front, single]
      exact Bool.false_ne_true
    obtain rfl := List.mem_singleton.mp fix
    obtain ⟨_, rfl⟩ := whitespaceGap_eq found
    exact terminator_ne_lineFeed commented second sameLine keeps.listed line keeps.within
      oneLine ⟨first, secondOrder⟩
  · have oneLine : ¬ doc.source.CrossesLine ⟨t.secondToLast.start, t.last.stop⟩ := by
      rw [← isMultilineText_text_iff placed.back, single]
      exact Bool.false_ne_true
    have listed : f ∈ [Fix.mk gap.span gap.comments none] := by
      by_cases same : t.first = t.secondToLast
      · rw [if_pos same] at fix
        cases fix
      · rwa [if_neg same] at fix
    obtain rfl := List.mem_singleton.mp listed
    obtain ⟨_, rfl⟩ := whitespaceGap_eq found
    exact terminator_ne_lineFeed commented last sameLine' keeps.listed line keeps.within
      oneLine ⟨secondToLast, lastOrder⟩

end Rule.BraceSpacing

namespace Visit

variable {v : Visit} {root : Node}

theorem onBraces_eq (options : SpacingOptions) (v : Visit) :
    v.onBraces (Rule.braceSpacing options doc) (Rule.spreadSpacing options doc) =
      (v.node.braceTokens? doc).toList.flatMap (Rule.BraceSpacing.check options doc) := by
  obtain ⟨n, ancestors⟩ := v
  have spread : ∀ span (argument : Node), Rule.spreadSpacing options doc span argument =
      (Rule.BraceSpacing.spreadTokens? doc span argument.span).toList.flatMap
        (Rule.BraceSpacing.check options doc) := by
    intro span argument
    unfold Rule.spreadSpacing
    cases Rule.BraceSpacing.spreadTokens? doc span argument.span with
    | none => rfl
    | some t => exact (List.flatMap_singleton _ _).symm
  dsimp only
  fun_cases Node.braceTokens? doc n with
  | case1 span content => exact (List.flatMap_singleton _ _).symm
  | case2 span argument => exact spread span argument
  | case3 span argument => exact spread span argument
  | case4 _ notContainer notAttribute notChild =>
    unfold onBraces
    dsimp only
    split
    · exact (notContainer _ _ rfl).elim
    · exact (notAttribute _ _ rfl).elim
    · exact (notChild _ _ rfl).elim
    · rfl

end Visit

/-! ### The tokens of braces -/

namespace Node

variable {n : Node}

theorem WellBegun.of_mem {source : Source} {root : Node} (begun : root.WellBegun source)
    (inside : n ∈ root.preorder) : n.WellBegun source :=
  fun m below => begun m (preorder_trans below inside)

theorem WellBegun.char? {source : Source} {root e : Node} (begun : root.WellBegun source)
    (inside : e ∈ root.preorder) (expression : e.isExpr = true) :
    ∃ x, source.char? e.span.start = some x ∧ isLineTerminator x = false := by
  have first := begun e inside expression
  cases found : source.char? e.span.start with
  | none =>
    rw [found] at first
    cases first
  | some x =>
    rw [found, Option.any_some, Bool.not_eq_true'] at first
    exact ⟨x, rfl, first⟩

theorem Delimited.closing_char? {source : Source} (delimited : n.Delimited source)
    (braced : n.kind.isBraced = true) :
    ∃ x, source.char? (n.span.stop - 1) = some x ∧ isLineTerminator x = false := by
  have closed := (delimited.braces braced).2
  exact ⟨'\x7d', Source.char?_eq_of_byte? closed (by decide) (by decide), by decide⟩

theorem placed_containerTokens {content : Node} (placed : n.WellPlaced doc.source)
    (delimited : n.WellDelimited doc.source) (begun : n.WellBegun doc.source)
    (kind : n.kind = .jsxContainer) (child : content ∈ n.children) :
    (Rule.BraceSpacing.containerTokens n.span
      (if content.isExpr then some content.span else none)).Placed doc.source := by
  have braced : n.kind.isBraced = true := by rw [kind]; rfl
  obtain ⟨opened, _⟩ := delimited.root.isBoundary_braces braced
  have closed := delimited.root.closing_char? braced
  have whole := placed.root.sliceable
  have inner := (placed.child child).root.sliceable
  have within := placed.root.inside (by rw [kind]; rfl) content child
  cases expression : content.isExpr with
  | true =>
    have begins := begun.char? (mem_preorder_of_child child) expression
    exact {
      ordered := by
        simp only [List.forall_mem_cons, List.not_mem_nil, IsEmpty.forall_iff, implies_true, and_true]
        exact ⟨Nat.le_succ _, inner.ordered, inner.ordered, Nat.sub_le _ _⟩
      opened
      second := begins
      secondToLast := inner.stops
      last := closed
      front := ⟨Nat.le_trans within.1 inner.ordered, whole.starts, inner.stops⟩
      back := ⟨Nat.le_trans inner.ordered within.2, inner.starts, whole.stops⟩ }
  | false =>
    exact {
      ordered := by
        simp only [List.forall_mem_cons, List.not_mem_nil, IsEmpty.forall_iff, implies_true, and_true]
        exact ⟨Nat.le_succ _, Nat.sub_le _ _, Nat.le_succ _, Nat.sub_le _ _⟩
      opened
      second := closed
      secondToLast := opened
      last := closed
      front := whole
      back := whole }

theorem placed_spreadTokens {argument : Node} {t : Rule.BraceSpacing.Tokens}
    (placed : n.WellPlaced doc.source) (delimited : n.WellDelimited doc.source)
    (braced : n.kind.isBraced = true) (child : argument ∈ n.children)
    (found : Rule.BraceSpacing.spreadTokens? doc n.span argument.span = some t) :
    t.Placed doc.source := by
  obtain ⟨dots, search, same⟩ := Option.bind_eq_some_iff.mp found
  obtain rfl := Option.some.inj same
  obtain ⟨low, _, here⟩ := findToken_spec search
  obtain ⟨opened, _⟩ := delimited.root.isBoundary_braces braced
  have whole := placed.root.sliceable
  have inner := (placed.child child).root.sliceable
  have plain : n.kind.mayBeDecorated = false := by
    revert braced
    cases n.kind <;> first | exact fun _ => rfl | exact nofun
  have within := placed.root.inside plain argument child
  have dot : doc.source.byte? dots = some 46 := Source.byte?_of_hasAt here (k := 0) (by decide)
  have first : doc.source.char? dots = some '.' :=
    Source.char?_eq_of_byte? dot (by decide) (by decide)
  have behind := (Source.isBoundary_of_hasAt here (k := 2) (b := 46) (by decide) (by decide)).2
  exact {
    ordered := by
      simp only [List.forall_mem_cons, List.not_mem_nil, IsEmpty.forall_iff, implies_true, and_true]
      exact ⟨Nat.le_succ _, Nat.le_add_right _ _, inner.ordered, Nat.sub_le _ _⟩
    opened
    second := ⟨'.', first, by decide⟩
    secondToLast := inner.stops
    last := delimited.root.closing_char? braced
    front := ⟨Nat.le_trans (Nat.le_of_succ_le low) (Nat.le_add_right dots 3), whole.starts, behind⟩
    back := ⟨Nat.le_trans inner.ordered within.2, inner.starts, whole.stops⟩ }

theorem placed_of_braceTokens? {t : Rule.BraceSpacing.Tokens}
    (placed : n.WellPlaced doc.source) (delimited : n.WellDelimited doc.source)
    (begun : n.WellBegun doc.source) (found : n.braceTokens? doc = some t) :
    t.Placed doc.source := by
  unfold braceTokens? at found
  split at found
  · obtain rfl := Option.some.inj found
    exact placed_containerTokens placed delimited begun rfl (List.mem_singleton_self _)
  · exact placed_spreadTokens placed delimited rfl (List.mem_singleton_self _) found
  · exact placed_spreadTokens placed delimited rfl (List.mem_singleton_self _) found
  · cases found

end Node

end JsxCheck
