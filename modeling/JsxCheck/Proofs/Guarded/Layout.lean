import JsxCheck.Proofs.Guarded.Gaps
import JsxCheck.Proofs.Guarded.Lines
import JsxCheck.Rule.Layout.Alignment
import JsxCheck.Rule.Layout.BraceSpacing
import JsxCheck.Rule.Layout.EqualsSpacing
import JsxCheck.Rule.Layout.TrailingSlash
import JsxCheck.Rule.Layout.Wrapping

/-!
The rules on layout that compute with offsets, with every step that may stop.

Each rule takes the steps in their order and says what the rule says when it comes to its end. The
lemmas tell what each of them needs for that: a tag, braces and parentheses are as long as their
tokens, and what a search for a token ends at is not inside of a comment.
-/
namespace JsxCheck.Guarded

/-- A text whose offsets fit into 32 bits, with comments that can be cut out of it and do not
overlap. -/
structure Measured (doc : Document) : Prop where
  lines : doc.lines = .ofSource doc.source
  small : doc.source.size < 2 ^ 32
  sliceable : ∀ c ∈ doc.comments, doc.source.Sliceable c
  apart : doc.comments.Pairwise Span.Apart

/-- An offset is not inside of a comment. -/
def Clear (comments : List Span) (offset : Nat) : Prop :=
  ∀ c ∈ comments, ¬ (c.start < offset ∧ offset < c.stop)

instance (comments : List Span) (offset : Nat) : Decidable (Clear comments offset) :=
  inferInstanceAs (Decidable (∀ c ∈ comments, _))

section Measured

variable {doc : Document} (measured : Measured doc)
include measured

theorem Measured.line (offset : Nat) : Guarded.line doc.lines offset = .ok (doc.line offset) := by
  rw [Document.line, measured.lines]
  exact line_ok _ _

theorem Measured.lineColumn (offset : Nat) :
    Guarded.lineColumn doc.lines offset = .ok (doc.line offset, doc.column offset) := by
  rw [Document.line, Document.column, measured.lines]
  exact lineColumn_ok _ _

theorem Measured.isMultiline (span : Span) :
    Guarded.isMultiline doc span = .ok (doc.isMultiline span) :=
  isMultiline_ok measured.lines span

theorem Measured.whitespaceGap (start stop : Nat) :
    Guarded.whitespaceGap doc.source doc.comments start stop =
      .ok (JsxCheck.whitespaceGap doc.source doc.comments start stop) :=
  whitespaceGap_ok (fun bound => Nat.lt_of_le_of_lt bound measured.small) measured.sliceable
    measured.apart

theorem Measured.findToken {start stop : Nat} {needle : String} (clear : Clear doc.comments stop)
    (solid : 0 < needle.utf8ByteSize) :
    Guarded.findToken doc.source doc.comments start stop needle =
      .ok (JsxCheck.findToken doc.source doc.comments start stop needle) :=
  findToken_ok (fun bound => Nat.lt_of_le_of_lt bound measured.small)
    (fun c listed => (measured.sliceable c listed).stops)
    (fun c listed before => Nat.not_lt.mp fun past => clear c listed ⟨before, past⟩) solid

end Measured

def when (wrong : Bool) (d : Except Fault Diagnostic) : Except Fault (List Diagnostic) :=
  if wrong then do return [← d] else .ok []

theorem when_ok {wrong : Bool} {d : Diagnostic} :
    when wrong (.ok d) = .ok (if wrong then [d] else []) := by
  cases wrong <;> rfl

/-! ### Tags on several lines -/

section Alignment
open Rule.Alignment

def laterItem (doc : Document) (indent firstColumn : Nat) (item : AttributeItem) :
    Except Fault (List Diagnostic) := do
  let (_, column) ← lineColumn doc.lines item.span.start
  return reportIf (column ≤ indent) item.span notIndented
    ++ reportIf (column != firstColumn) item.span notAligned

def closingTag (doc : Document) (indent closeLine : Nat) (closing : Option Node) :
    Except Fault (List Diagnostic) :=
  match closing with
  | none => .ok []
  | some tag => do
    let (line, column) ← lineColumn doc.lines tag.span.start
    return reportIf (line ≤ closeLine || column != indent) tag.span Rule.Alignment.closingTag

def alignment (doc : Document) (e : Element) : Except Fault (List Diagnostic) :=
  match e.opening.items with
  | [] => .ok []
  | first :: rest => do
    if ← isMultiline doc e.opening.span then
      let openLine ← line doc.lines e.opening.span.start
      let indent := doc.lines.indent doc.source openLine
      let close := closeOffset e
      let (closeLine, closeColumn) ← lineColumn doc.lines close
      let (firstLine, firstColumn) ← lineColumn doc.lines first.span.start
      let later ← rest.mapM (laterItem doc indent firstColumn)
      let lastLine ← line doc.lines (rest.getLastD first).span.start
      let tagEnd : Span := ⟨close, ← add close 1⟩
      let closing ← closingTag doc indent closeLine e.closing
      return reportIf (firstLine == openLine) first.span onTagLine
        ++ reportIf (firstColumn ≤ indent) first.span notIndented
        ++ later.flatten
        ++ reportIf (lastLine == closeLine || closeColumn != indent) tagEnd tagClose
        ++ closing
    else return []

variable {doc : Document} (measured : Measured doc)
include measured

theorem laterItem_ok (indent firstColumn : Nat) (item : AttributeItem) :
    laterItem doc indent firstColumn item =
      .ok (reportIf (doc.column item.span.start ≤ indent) item.span notIndented
        ++ reportIf (doc.column item.span.start != firstColumn) item.span notAligned) := by
  rw [laterItem, measured.lineColumn]
  rfl

theorem closingTag_ok (e : Element) :
    closingTag doc (indentOf doc e) (doc.line (closeOffset e)) e.closing =
      .ok (Rule.Alignment.closing doc e) := by
  unfold closingTag Rule.Alignment.closing
  cases e.closing with
  | none => rfl
  | some tag =>
    dsimp only
    rw [measured.lineColumn]
    rfl

theorem alignment_ok {e : Element} (inside : e.opening.span.stop ≤ doc.source.size) :
    alignment doc e = .ok (Rule.alignment doc e) := by
  have small := measured.small
  have close : closeOffset e + 1 < 2 ^ 32 := by
    unfold closeOffset
    split <;> omega
  unfold alignment Rule.alignment
  cases e.opening.items with
  | nil => rfl
  | cons first rest =>
    dsimp only
    rw [measured.isMultiline, ok_bind]
    split
    · rw [measured.line, ok_bind, measured.lineColumn, ok_bind, measured.lineColumn, ok_bind,
        mapM_ok fun item _ => laterItem_ok measured _ _ item, ok_bind, measured.line, ok_bind,
        add_ok close, ok_bind]
      have closing := closingTag_ok measured e
      rw [indentOf] at closing
      rw [closing, ok_bind, ← List.flatMap_def]
      simp only [pure_eq_ok, attributes, openingEnd, indentOf, List.append_assoc]
      rfl
    · rfl

end Alignment

/-! ### Space around `=` -/

section EqualsSpacing
open Rule.EqualsSpacing

def around (usage : Usage) (doc : Document) (nameStop equals valueStart : Nat) :
    Except Fault (List Diagnostic) := do
  let before ← whitespaceGap doc.source doc.comments nameStop equals
  let after ← whitespaceGap doc.source doc.comments (← add equals 1) valueStart
  match usage with
  | .always =>
    let missingBefore ← when before.isNone do
      return warning ⟨equals, ← add equals 1⟩ "A space is required before '='" (.insert nameStop " ")
    let missingAfter ← when after.isNone do
      return warning ⟨← add equals 1, ← add equals 2⟩ "A space is required after '='"
        (.insert (← add equals 1) " ")
    return missingBefore ++ missingAfter
  | .never =>
    let spaceBefore ← before.toList.mapM fun gap => do
      return warning ⟨← sub equals 1, equals⟩ "There should be no space before '='"
        ⟨gap.span, gap.comments, none⟩
    let spaceAfter ← after.toList.mapM fun gap => do
      return warning ⟨← add equals 1, ← add equals 2⟩ "There should be no space after '='"
        ⟨gap.span, gap.comments, none⟩
    return spaceBefore ++ spaceAfter

def ofAttribute (usage : Usage) (doc : Document) (a : Attribute) :
    Except Fault (List Diagnostic) :=
  match a.value with
  | none => .ok []
  | some value => do
    match ← findToken doc.source doc.comments a.nameSpan.stop value.span.start "=" with
    | none => return []
    | some equals => around usage doc a.nameSpan.stop equals value.span.start

def equalsSpacing (options : SpacingOptions) (doc : Document) (o : Opening) :
    Except Fault (List Diagnostic) :=
  match options.spacing with
  | none => .ok []
  | some usage => do return (← o.attributes.mapM (ofAttribute usage doc)).flatten

variable {doc : Document} (measured : Measured doc)
include measured

/-- There is a byte in front of an `=` when there is a gap in front of it. -/
theorem around_ok {usage : Usage} {nameStop equals valueStart : Nat} (inside : equals + 2 < 2 ^ 32) :
    around usage doc nameStop equals valueStart =
      .ok (Rule.EqualsSpacing.around usage doc nameStop equals valueStart) := by
  have next : add equals 1 = .ok (equals + 1) := add_ok (by omega)
  unfold around Rule.EqualsSpacing.around
  rw [measured.whitespaceGap, ok_bind, next, ok_bind, measured.whitespaceGap, ok_bind, add_ok inside]
  cases usage with
  | always =>
    dsimp only [ok_bind, pure_eq_ok]
    rw [when_ok, ok_bind, when_ok, ok_bind]
    rfl
  | never =>
    dsimp only [ok_bind, pure_eq_ok]
    have previous : ∀ gap ∈ (JsxCheck.whitespaceGap doc.source doc.comments nameStop equals).toList,
        sub equals 1 = .ok (equals - 1) := by
      intro gap found
      have less := (whitespaceGap_eq (Option.mem_toList.mp found)).1
      exact sub_ok (by omega)
    rw [mapM_ok (g := fun gap => warning (before equals) "There should be no space before '='"
      ⟨gap.span, gap.comments, none⟩) fun gap found => by rw [previous gap found]; rfl, ok_bind,
      mapM_ok (fun gap _ => rfl), ok_bind]
    rfl

/-- The byte behind an `=` is in front of the value or its first one. -/
theorem ofAttribute_ok {usage : Usage} {a : Attribute} (placed : ∀ value ∈ a.value,
      Clear doc.comments value.span.start ∧ value.span.start < value.span.stop ∧
        value.span.stop ≤ doc.source.size) :
    ofAttribute usage doc a = .ok (Rule.EqualsSpacing.ofAttribute usage doc a) := by
  unfold ofAttribute Rule.EqualsSpacing.ofAttribute
  cases given : a.value with
  | none => rfl
  | some value =>
    obtain ⟨clear, solid, inside⟩ := placed value given
    dsimp only
    rw [measured.findToken clear (by decide), ok_bind]
    cases found : JsxCheck.findToken doc.source doc.comments a.nameSpan.stop value.span.start "=" with
    | none => rfl
    | some equals =>
      have hit := (findToken_spec found).2.1
      have one : "=".utf8ByteSize = 1 := rfl
      have small := measured.small
      have room : equals + 2 < 2 ^ 32 := by omega
      exact around_ok measured room

theorem equalsSpacing_ok {options : SpacingOptions} {o : Opening}
    (placed : ∀ a ∈ o.attributes, ∀ value ∈ a.value, Clear doc.comments value.span.start ∧
      value.span.start < value.span.stop ∧ value.span.stop ≤ doc.source.size) :
    equalsSpacing options doc o = .ok (Rule.equalsSpacing options doc o) := by
  unfold equalsSpacing Rule.equalsSpacing
  cases options.spacing with
  | none => rfl
  | some usage =>
    dsimp only
    rw [mapM_ok fun a listed => ofAttribute_ok measured (placed a listed), ok_bind, List.flatMap_def]
    rfl

end EqualsSpacing

/-! ### Space inside braces -/

section BraceSpacing
open Rule.BraceSpacing

def openBrace (span : Span) : Except Fault Span := do return ⟨span.start, ← add span.start 1⟩

def closeBrace (span : Span) : Except Fault Span := do return ⟨← sub span.stop 1, span.stop⟩

def containerTokens (span : Span) (value : Option Span) : Except Fault Tokens := do
  let first ← openBrace span
  let last ← closeBrace span
  match value with
  | some value => return ⟨first, value, value, last⟩
  | none => return ⟨first, last, first, last⟩

def spreadTokens (doc : Document) (span value : Span) : Except Fault (Option Tokens) := do
  let start ← add span.start 1
  match ← findToken doc.source doc.comments start value.start "..." with
  | none => return none
  | some dots =>
    return some ⟨← openBrace span, ⟨dots, ← add dots 3⟩, value, ← closeBrace span⟩

def bracesOf (options : SpacingOptions) (doc : Document) (span : Span) (t : Tokens) :
    Except Fault (List Diagnostic) := do
  let opening ← openBrace span
  let closing ← closeBrace span
  let leading ← whitespaceGap doc.source doc.comments t.first.stop t.second.start
  let trailing ← whitespaceGap doc.source doc.comments t.secondToLast.stop t.last.start
  match options.spacing with
  | some .always =>
    return (if leading.isNone then
        [warning opening "A space is required after \x7b" [.insert t.first.stop " "]]
      else [])
      ++ if trailing.isNone then
        [warning closing "A space is required before \x7d" [.insert t.last.start " "]]
      else []
  | some .never =>
    let head := isMultilineText (doc.text ⟨t.first.start, t.second.stop⟩)
    let tail := isMultilineText (doc.text ⟨t.secondToLast.start, t.last.stop⟩)
    return ((leading.filter fun _ => !head).toList.map fun gap =>
        warning opening "There should be no space after \x7b" [⟨gap.span, gap.comments, none⟩])
      ++ (trailing.filter fun _ => !tail).toList.map fun gap =>
        warning closing "There should be no space before \x7d"
          (if t.first = t.secondToLast then [] else [⟨gap.span, gap.comments, none⟩])
  | none => return []

def braceSpacing (options : SpacingOptions) (doc : Document) (span : Span) (content : Node) :
    Except Fault (List Diagnostic) := do
  bracesOf options doc span
    (← containerTokens span (if content.isExpr then some content.span else none))

def spreadSpacing (options : SpacingOptions) (doc : Document) (span : Span) (value : Node) :
    Except Fault (List Diagnostic) := do
  match ← spreadTokens doc span value.span with
  | some tokens => bracesOf options doc span tokens
  | none => return []

variable {span : Span} (long : span.start + 2 ≤ span.stop)
include long

theorem openBrace_ok (small : span.stop < 2 ^ 32) :
    openBrace span = .ok (Rule.BraceSpacing.openBrace span) := by
  rw [openBrace, add_ok (by omega)]
  rfl

theorem closeBrace_ok : closeBrace span = .ok (Rule.BraceSpacing.closeBrace span) := by
  rw [closeBrace, sub_ok (by omega)]
  rfl

variable {doc : Document} (measured : Measured doc) (inside : span.stop ≤ doc.source.size)
include measured inside

theorem bracesOf_ok {options : SpacingOptions} {t : Tokens}
    (first : t.first = Rule.BraceSpacing.openBrace span)
    (last : t.last = Rule.BraceSpacing.closeBrace span) :
    bracesOf options doc span t = .ok (check options doc t) := by
  have small : span.stop < 2 ^ 32 := Nat.lt_of_le_of_lt inside measured.small
  unfold bracesOf check
  rw [openBrace_ok long small, ok_bind, closeBrace_ok long, ok_bind, measured.whitespaceGap, ok_bind,
    measured.whitespaceGap, ok_bind, ← first, ← last]
  cases options.spacing with
  | none => rfl
  | some usage =>
    cases usage with
    | always => rfl
    | never =>
      unfold forbidden leading trailing
      cases JsxCheck.whitespaceGap doc.source doc.comments t.first.stop t.second.start <;>
        cases JsxCheck.whitespaceGap doc.source doc.comments t.secondToLast.stop t.last.start <;>
          cases isMultilineText (doc.text ⟨t.first.start, t.second.stop⟩) <;>
            cases isMultilineText (doc.text ⟨t.secondToLast.start, t.last.stop⟩) <;> rfl

theorem braceSpacing_ok {options : SpacingOptions} {content : Node} :
    braceSpacing options doc span content = .ok (Rule.braceSpacing options doc span content) := by
  have small : span.stop < 2 ^ 32 := Nat.lt_of_le_of_lt inside measured.small
  have tokens : ∀ value, Guarded.containerTokens span value =
      .ok (Rule.BraceSpacing.containerTokens span value) := by
    intro value
    rw [Guarded.containerTokens, openBrace_ok long small, ok_bind, closeBrace_ok long, ok_bind]
    cases value <;> rfl
  unfold braceSpacing Rule.braceSpacing
  rw [tokens, ok_bind]
  cases content.isExpr <;> exact bracesOf_ok long measured inside rfl rfl

/-- Three dots in front of a value leave room for themselves. -/
theorem spreadSpacing_ok {options : SpacingOptions} {value : Node}
    (clear : Clear doc.comments value.span.start) (bounded : value.span.start ≤ doc.source.size) :
    spreadSpacing options doc span value = .ok (Rule.spreadSpacing options doc span value) := by
  have small := measured.small
  unfold spreadSpacing Rule.spreadSpacing spreadTokens spreadTokens?
  rw [add_ok (by omega), ok_bind, measured.findToken clear (by decide), ok_bind]
  cases found : JsxCheck.findToken doc.source doc.comments (span.start + 1) value.span.start "..." with
  | none => rfl
  | some dots =>
    have hit := (findToken_spec found).2.1
    have three : "...".utf8ByteSize = 3 := rfl
    dsimp only
    rw [openBrace_ok long (by omega), ok_bind, add_ok (by omega), ok_bind, closeBrace_ok long, ok_bind]
    exact bracesOf_ok long measured inside rfl rfl

end BraceSpacing

/-! ### Closed tags and parentheses -/

def selfClose (doc : Document) (e : Element) : Except Fault (List Diagnostic) :=
  match e.closing with
  | none => .ok []
  | some closing =>
    if Rule.hasNoContent doc.source e.children then do
      let replaced : Span := ⟨← sub e.opening.span.stop 1, closing.span.stop⟩
      return [(RuleName.jsxSelfClose.warning e.span
        "JSX elements with no children must be self-closing").addFix ⟨replaced, " />", none⟩]
    else return []

theorem selfClose_ok {doc : Document} {e : Element}
    (long : e.opening.span.start + 2 ≤ e.opening.span.stop) :
    selfClose doc e = .ok (Rule.selfClose doc e) := by
  unfold selfClose Rule.selfClose
  cases e.closing with
  | none => rfl
  | some closing =>
    dsimp only
    rw [sub_ok (by omega)]
    split <;> rfl

def wrapMulitlines (doc : Document) (e : Element) (position : Position) :
    Except Fault (List Diagnostic) := do
  if ← isMultiline doc e.span then
    match position with
    | .parenthesized _ => return []
    | _ =>
      return [RuleName.jsxWrapMulitlines.warning e.span
        "Multiline JSX elements must be wrapped in parenthesis"]
  else return []

def wrapMultiline (doc : Document) (e : Element) (position : Position) :
    Except Fault (List Diagnostic) := do
  if ← isMultiline doc e.span then
    match position with
    | .child => return []
    | .other =>
      return [RuleName.jsxWrapMultiline.warning e.span
        "Multiline JSX elements must be wrapped in parentheses"]
    | .parenthesized paren =>
      let sameFirst := (← line doc.lines paren.start) == (← line doc.lines e.span.start)
      let sameLast := (← line doc.lines (← sub paren.stop 1)) == (← line doc.lines e.span.stop)
      return (if sameFirst then
          [RuleName.jsxWrapMultiline.warning ⟨paren.start, e.span.start⟩
            "New line required after open parenthesis when wrapping multiline JSX elements"]
        else [])
        ++ if sameLast then
          [RuleName.jsxWrapMultiline.warning ⟨e.span.stop, paren.stop⟩
            "New line requred before close parenthesis when wrapping multiline JSX elements"]
        else []
  else return []

section Wrapping

variable {doc : Document} (measured : Measured doc) {e : Element} {position : Position}
include measured

theorem wrapMulitlines_ok :
    wrapMulitlines doc e position = .ok (Rule.wrapMulitlines doc e position) := by
  unfold wrapMulitlines Rule.wrapMulitlines
  rw [measured.isMultiline, ok_bind]
  split
  · cases position <;> rfl
  · rfl

theorem wrapMultiline_ok
    (long : ∀ paren, position = .parenthesized paren → paren.start + 2 ≤ paren.stop) :
    wrapMultiline doc e position = .ok (Rule.wrapMultiline doc e position) := by
  unfold wrapMultiline Rule.wrapMultiline
  rw [measured.isMultiline, ok_bind]
  split
  · cases position with
    | child => rfl
    | other => rfl
    | parenthesized paren =>
      have room := long paren rfl
      dsimp only
      rw [measured.line, ok_bind, measured.line, ok_bind, sub_ok (by omega), ok_bind, measured.line,
        ok_bind, measured.line, ok_bind]
      rfl
  · rfl

end Wrapping

end JsxCheck.Guarded
