import JsxCheck.Proofs.Guarded.Fault
import JsxCheck.Proofs.Source.Columns

/-!
Lines and columns, with every step that may stop.

The first line starts at zero, so there is a line in front of every offset and no look-up stops. What is
looked up is told by the line feeds alone, and so is whether a span is on several lines.
-/
namespace JsxCheck.Guarded

theorem startsFrom_ok {s : Source} (small : s.size < 2 ^ 32) (fuel i : Nat) :
    startsFrom s fuel i = .ok (LineIndex.startsFrom s fuel i) := by
  induction fuel generalizing i with
  | zero => rfl
  | succ fuel ih =>
    rw [startsFrom, LineIndex.startsFrom, ih]
    split
    · rename_i feed
      have inside : i < s.size := by
        by_contra past
        rw [Source.byte?_eq_none (Nat.not_lt.mp past)] at feed
        cases feed
      rw [add_ok (by omega)]
      rfl
    · rfl

theorem lineIndex_ok {s : Source} (small : s.size < 2 ^ 32) : lineIndex s = .ok (.ofSource s) := by
  rw [lineIndex, startsFrom_ok small]
  rfl

theorem line_ok (s : Source) (offset : Nat) :
    line (.ofSource s) offset = .ok ((LineIndex.ofSource s).line offset) := by
  unfold line LineIndex.line
  rw [LineIndex.countUpTo_eq]
  dsimp only
  split
  · rfl
  · exact sub_ok (Nat.le_add_left 1 _)

theorem lineColumn_ok (s : Source) (offset : Nat) : lineColumn (.ofSource s) offset =
    .ok ((LineIndex.ofSource s).line offset, (LineIndex.ofSource s).column offset) := by
  have inside : (LineIndex.ofSource s).line offset < (LineIndex.ofSource s).starts.size :=
    LineIndex.line_lt_lineCount s offset
  have starts := LineIndex.lineStart_line_le s offset
  have found : (LineIndex.ofSource s).starts[(LineIndex.ofSource s).line offset]? =
      some ((LineIndex.ofSource s).lineStart ((LineIndex.ofSource s).line offset)) := by
    rw [LineIndex.lineStart, Array.getD_eq_getD_getElem?, Array.getElem?_eq_getElem inside,
      Option.getD_some]
  rw [lineColumn, line_ok, ok_bind, entry_ok found, ok_bind, sub_ok starts]
  rfl

theorem isMultiline_ok {doc : Document} (indexed : doc.lines = .ofSource doc.source) (span : Span) :
    isMultiline doc span = .ok (doc.isMultiline span) := by
  rw [isMultiline, Document.isMultiline, Document.line, Document.line, indexed, line_ok, ok_bind, line_ok]
  rfl

/-- In a text of fewer than `2 ^ 32` bytes a line is told by the line feeds in front of an offset, and a
column by the last of them. Lines never decrease, and a span of the text begins and ends on different
lines exactly when a line feed is in its text. -/
theorem lookup_by_lineFeeds {s : Source} (small : s.size < 2 ^ 32) :
    ∃ x, lineIndex s = .ok x ∧
      (∀ offset, line x offset = .ok (x.line offset) ∧
        lineColumn x offset = .ok (x.line offset, x.column offset) ∧
        x.line offset = (s.bytes.take offset).count 10 ∧
        x.lineStart (x.line offset) + x.column offset = offset ∧
        ∃ start, IsGreatest
            {start | start = 0 ∨ ∃ i < offset, s.byte? i = some 10 ∧ start = i + 1} start ∧
          x.column offset = offset - start) ∧
      Monotone x.line ∧
      ∀ dialect path comments,
        let doc := Document.ofText s.text dialect path comments
        doc.lines = x ∧ ∀ span, s.Sliceable span →
          isMultiline doc span = .ok (doc.isMultiline span) ∧
          doc.isMultiline span = isMultilineText (doc.text span) ∧
          (doc.isMultiline span = true ↔ '\n' ∈ (doc.text span).toList) := by
  refine ⟨.ofSource s, lineIndex_ok small, fun offset => ?_, fun i j order => ?_, ?_⟩
  · exact ⟨line_ok s offset, lineColumn_ok s offset,
      (LineIndex.line_ofSource s offset).trans (s.lineFeeds_eq_count offset),
      Nat.add_sub_cancel' (LineIndex.lineStart_line_le s offset),
      _, LineIndex.isGreatest_lineStart s offset, rfl⟩
  · rw [LineIndex.line_ofSource, LineIndex.line_ofSource]
    exact s.lineFeeds_mono order
  · intro dialect path comments doc
    refine ⟨rfl, fun span sliceable => ?_⟩
    have same : doc.isMultiline span = isMultilineText (doc.text span) :=
      Document.isMultiline_eq_isMultilineText s.text dialect path comments sliceable
    exact ⟨isMultiline_ok rfl span, same, by rw [same, isMultilineText_iff_mem]⟩

/-- Offsets on a line feed, just behind it and past the end, and spans up to a line feed and over it. -/
theorem lookup_by_lineFeeds_of_threeLines :
    let s : Source := ⟨"ab\n  cd\nef"⟩
    let doc := Document.ofText s.text .tsx none []
    s.size < 2 ^ 32 ∧ s.Sliceable ⟨1, 2⟩ ∧ s.Sliceable ⟨1, 3⟩ ∧ ∃ x, lineIndex s = .ok x ∧
      x.line 2 = 0 ∧ x.line 3 = 1 ∧ x.line 20 = 2 ∧ x.lineStart 2 + x.column 20 = 20 ∧
      Monotone x.line ∧
      isMultiline doc ⟨1, 2⟩ = .ok (isMultilineText (doc.text ⟨1, 2⟩)) ∧
      isMultiline doc ⟨1, 3⟩ = .ok true ∧ '\n' ∈ (doc.text ⟨1, 3⟩).toList := by
  intro s doc
  have small : s.size < 2 ^ 32 := by decide
  have upTo : s.Sliceable ⟨1, 2⟩ := (s.sliceable_iff _).mpr (by decide +kernel)
  have across : s.Sliceable ⟨1, 3⟩ := (s.sliceable_iff _).mpr (by decide +kernel)
  obtain ⟨x, built, looked, monotone, documents⟩ := lookup_by_lineFeeds small
  obtain ⟨_, spans⟩ := documents .tsx none []
  have last : x.line 20 = 2 := (looked 20).2.2.1.trans (by decide +kernel)
  obtain ⟨ends, same, _⟩ := spans ⟨1, 2⟩ upTo
  obtain ⟨ends', _, feed⟩ := spans ⟨1, 3⟩ across
  have crossed : doc.isMultiline ⟨1, 3⟩ = true := by decide +kernel
  refine ⟨small, upTo, across, x, built, (looked 2).2.2.1.trans (by decide +kernel),
    (looked 3).2.2.1.trans (by decide +kernel), last, ?_, monotone,
    ends.trans (congrArg _ same), ends'.trans (congrArg _ crossed), feed.mp crossed⟩
  have placed := (looked 20).2.2.2.1
  rwa [last] at placed

end JsxCheck.Guarded
