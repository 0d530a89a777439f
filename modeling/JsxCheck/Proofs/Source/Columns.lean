import JsxCheck.Proofs.Source.Lines

/-!
Columns, and what stands at the front of a line.

An offset is told by its line and its column, so of two offsets in one column the later one is on a later
line. `opensLine_iff` says when nothing but spaces and tabs stands in front of an offset on its line: its
column is then the indentation of the line.
-/
namespace JsxCheck

namespace LineIndex

theorem isIndentByte_iff {byte : Option UInt8} :
    byte.any isIndentByte = true ↔ byte = some 32 ∨ byte = some 9 := by
  cases byte <;> simp [isIndentByte]

theorem isIndentByte_of_lt_indentFrom {s : Source} {fuel i k : Nat} (inside : k < indentFrom s fuel i) :
    (s.byte? (i + k)).any isIndentByte = true := by
  induction fuel generalizing i k with
  | zero => cases inside
  | succ fuel ih =>
    rw [indentFrom] at inside
    split at inside
    · rename_i blank
      cases k with
      | zero => exact blank
      | succ k =>
        have later := ih (i := i + 1) (k := k) (by omega)
        rwa [show i + (k + 1) = i + 1 + k by omega]
    · cases inside

theorem le_indentFrom {s : Source} {fuel i n : Nat} (enough : n ≤ fuel)
    (blank : ∀ k < n, (s.byte? (i + k)).any isIndentByte = true) : n ≤ indentFrom s fuel i := by
  induction fuel generalizing i n with
  | zero => omega
  | succ fuel ih =>
    cases n with
    | zero => exact Nat.zero_le _
    | succ n =>
      have first := blank 0 (Nat.succ_pos n)
      rw [Nat.add_zero] at first
      rw [indentFrom, if_pos first]
      have later := ih (i := i + 1) (n := n) (by omega) (by
        intro k below
        have here := blank (k + 1) (by omega)
        rwa [show i + 1 + k = i + (k + 1) by omega])
      omega

end LineIndex

namespace Document

/-- Nothing but spaces and tabs stands in front of the offset on its line. -/
def OpensLine (doc : Document) (offset : Nat) : Prop :=
  ∀ i, doc.lines.lineStart (doc.line offset) ≤ i → i < offset →
    doc.source.byte? i = some 32 ∨ doc.source.byte? i = some 9

variable {doc : Document} (indexed : doc.lines = .ofSource doc.source)

include indexed

theorem lineStart_add_column (offset : Nat) :
    doc.lines.lineStart (doc.line offset) + doc.column offset = offset := by
  have low := LineIndex.lineStart_line_le doc.source offset
  rw [← indexed] at low
  exact Nat.add_sub_cancel' low

theorem line_mono {i j : Nat} (order : i ≤ j) : doc.line i ≤ doc.line j := by
  rw [line, line, indexed, LineIndex.line_ofSource, LineIndex.line_ofSource]
  exact Source.lineFeeds_mono _ order

/-- Of two offsets in one column the later one is on a later line. -/
theorem line_lt_of_column_eq {i j : Nat} (less : i < j) (same : doc.column i = doc.column j) :
    doc.line i < doc.line j := by
  apply Nat.lt_of_le_of_ne (line_mono indexed (Nat.le_of_lt less))
  intro sameLine
  have atI := lineStart_add_column indexed i
  have atJ := lineStart_add_column indexed j
  rw [sameLine, same] at atI
  omega

/-- A line starts behind the offsets on the lines above. -/
theorem lt_lineStart {i j : Nat} (below : doc.line i < doc.line j) :
    i < doc.lines.lineStart (doc.line j) := by
  rw [line, line, indexed] at below
  rw [line, indexed]
  refine Nat.not_le.mp fun reached => Nat.not_le.mpr below ?_
  exact (LineIndex.lineStart_le_iff (LineIndex.line_lt_lineCount _ j)).mp reached

theorem opensLine_iff {offset : Nat}
    (solid : (doc.source.byte? offset).any LineIndex.isIndentByte = false) :
    doc.OpensLine offset ↔ doc.lines.indent doc.source (doc.line offset) = doc.column offset := by
  have here := lineStart_add_column indexed offset
  simp only [OpensLine, ← LineIndex.isIndentByte_iff, LineIndex.indent]
  generalize doc.lines.lineStart (doc.line offset) = start at here ⊢
  generalize doc.column offset = column at here ⊢
  constructor
  · intro blank
    have most : LineIndex.indentFrom doc.source doc.source.size start ≤ offset - start :=
      LineIndex.indentFrom_le (by omega) solid
    have least : column ≤ LineIndex.indentFrom doc.source doc.source.size start := by
      refine LineIndex.le_indentFrom ?_ fun k below => blank (start + k) (by omega) (by omega)
      -- The last blank byte is in the text, so the whole indentation is.
      by_contra past
      have last := blank (offset - 1) (by omega) (by omega)
      rw [Source.byte?_eq_none (by omega)] at last
      cases last
    omega
  · intro same i low high
    have inside : i - start < LineIndex.indentFrom doc.source doc.source.size start := by omega
    have blank := LineIndex.isIndentByte_of_lt_indentFrom inside
    rwa [show start + (i - start) = i by omega] at blank

end Document

end JsxCheck
