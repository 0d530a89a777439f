import JsxCheck.Proofs.Source.Boundaries
import JsxCheck.Proofs.Source.Occurrences
import JsxCheck.Source.Document
import Mathlib.Data.List.Infix
import Mathlib.Data.List.Sort
import Mathlib.Order.Bounds.Basic

/-!
Lines are counted by line feeds.

`line_ofSource` says that the bisection over the table of line starts counts the line feeds in front
of an offset, so lines never decrease along a text and two offsets are on different lines exactly when
a line feed stands between them. A line starts behind the last line feed in front of its offsets
(`isGreatest_lineStart`).
-/
namespace JsxCheck

namespace Source

/-- Number of line feeds in front of an offset. -/
def lineFeeds (s : Source) (offset : Nat) : Nat :=
  (List.range offset).countP fun i => s.byte? i == some 10

/-- A line feed stands under the span. -/
def CrossesLine (s : Source) (span : Span) : Prop :=
  ∃ i, span.start ≤ i ∧ i < span.stop ∧ s.byte? i = some 10

theorem lineFeeds_succ (s : Source) (offset : Nat) :
    s.lineFeeds (offset + 1) = s.lineFeeds offset + if s.byte? offset == some 10 then 1 else 0 := by
  rw [lineFeeds, List.range_succ, List.countP_append, lineFeeds, List.countP_singleton]

theorem lineFeeds_eq_count (s : Source) (offset : Nat) :
    s.lineFeeds offset = (s.bytes.take offset).count 10 := by
  induction offset with
  | zero => rfl
  | succ offset ih =>
    rw [lineFeeds_succ, ih, List.take_add_one, List.count_append, byte?_eq]
    cases s.bytes[offset]? with
    | none => rfl
    | some b => simp [List.count_singleton]

theorem byte?_eq_none {s : Source} {i : Nat} (past : s.size ≤ i) : s.byte? i = none := by
  exact dif_neg (Nat.not_lt.mpr past)

theorem lineFeeds_min_size (s : Source) (offset : Nat) :
    s.lineFeeds (min offset s.size) = s.lineFeeds offset := by
  induction offset with
  | zero => rw [Nat.zero_min]
  | succ offset ih =>
    by_cases inside : offset + 1 ≤ s.size
    · rw [Nat.min_eq_left inside]
    · rw [lineFeeds_succ, byte?_eq_none (by omega), ← ih, Nat.min_eq_right (by omega),
        Nat.min_eq_right (by omega)]
      rfl

theorem lineFeeds_mono (s : Source) {a b : Nat} (order : a ≤ b) : s.lineFeeds a ≤ s.lineFeeds b := by
  induction b with
  | zero => rw [Nat.le_zero.mp order]
  | succ b ih =>
    rcases Nat.le_succ_iff.mp order with earlier | rfl
    · exact Nat.le_trans (ih earlier) (by rw [lineFeeds_succ]; exact Nat.le_add_right _ _)
    · exact Nat.le_refl _

theorem lineFeeds_lt_iff (s : Source) {span : Span} (order : span.start ≤ span.stop) :
    s.lineFeeds span.start < s.lineFeeds span.stop ↔ s.CrossesLine span := by
  obtain ⟨start, stop⟩ := span
  dsimp only at order ⊢
  constructor
  · intro more
    induction stop with
    | zero => rw [Nat.le_zero.mp order] at more; exact absurd more (Nat.lt_irrefl _)
    | succ stop ih =>
      rcases Nat.le_succ_iff.mp order with earlier | rfl
      · by_cases feed : s.byte? stop = some 10
        · exact ⟨stop, earlier, Nat.lt_succ_self _, feed⟩
        · rw [lineFeeds_succ, if_neg (by simpa using feed), Nat.add_zero] at more
          obtain ⟨i, low, high, here⟩ := ih earlier more
          exact ⟨i, low, Nat.lt_succ_of_lt high, here⟩
      · exact absurd more (Nat.lt_irrefl _)
  · rintro ⟨i, low, high, feed⟩
    have before := s.lineFeeds_mono low
    have after := s.lineFeeds_mono (Nat.succ_le_of_lt high)
    rw [Nat.succ_eq_add_one, lineFeeds_succ, feed] at after
    simp only [beq_self_eq_true, if_true] at after
    dsimp only at before
    omega

end Source

namespace LineIndex

/-! ### The table of line starts -/

theorem mem_startsFrom_iff {s : Source} {fuel i j : Nat} : j ∈ startsFrom s fuel i ↔
    ∃ k, i ≤ k ∧ k < i + fuel ∧ s.byte? k = some 10 ∧ j = k + 1 := by
  induction fuel generalizing i with
  | zero =>
    rw [startsFrom]
    refine ⟨nofun, ?_⟩
    rintro ⟨k, low, high, _⟩
    omega
  | succ fuel ih =>
    rw [startsFrom]
    have later : (∃ k, i + 1 ≤ k ∧ k < i + 1 + fuel ∧ s.byte? k = some 10 ∧ j = k + 1) →
        ∃ k, i ≤ k ∧ k < i + (fuel + 1) ∧ s.byte? k = some 10 ∧ j = k + 1 := by
      rintro ⟨k, low, high, feed⟩
      exact ⟨k, by omega, by omega, feed⟩
    split
    · rename_i feed
      rw [List.mem_cons, ih]
      constructor
      · rintro (rfl | member)
        · exact ⟨i, Nat.le_refl i, by omega, beq_iff_eq.mp feed, rfl⟩
        · exact later member
      · rintro ⟨k, low, high, feed, rfl⟩
        rcases Nat.eq_or_lt_of_le low with rfl | after
        · exact Or.inl rfl
        · exact Or.inr ⟨k, after, by omega, feed, rfl⟩
    · rename_i other
      rw [ih]
      refine ⟨later, ?_⟩
      rintro ⟨k, low, high, feed, rfl⟩
      rcases Nat.eq_or_lt_of_le low with rfl | after
      · exact absurd (beq_iff_eq.mpr feed) other
      · exact ⟨k, after, by omega, feed, rfl⟩

theorem lt_of_mem_startsFrom {s : Source} {fuel i j : Nat} (member : j ∈ startsFrom s fuel i) :
    i < j := by
  obtain ⟨k, low, _, _, rfl⟩ := mem_startsFrom_iff.mp member
  exact Nat.lt_succ_of_le low

theorem startsFrom_sorted (s : Source) (fuel i : Nat) : (startsFrom s fuel i).Pairwise (· < ·) := by
  induction fuel generalizing i with
  | zero => exact List.Pairwise.nil
  | succ fuel ih =>
    rw [startsFrom]
    split
    · exact List.pairwise_cons.mpr ⟨fun j later => lt_of_mem_startsFrom later, ih (i + 1)⟩
    · exact ih (i + 1)

/-- The line starts up to an offset are the line feeds in front of it. -/
theorem countP_startsFrom (s : Source) (offset fuel i : Nat) :
    s.lineFeeds (min offset i) + (startsFrom s fuel i).countP (· ≤ offset) =
      s.lineFeeds (min offset (i + fuel)) := by
  induction fuel generalizing i with
  | zero => rw [startsFrom, List.countP_nil, Nat.add_zero, Nat.add_zero]
  | succ fuel ih =>
    have later := ih (i + 1)
    rw [show i + 1 + fuel = i + (fuel + 1) by omega] at later
    rw [← later, startsFrom]
    by_cases inside : i + 1 ≤ offset
    · rw [Nat.min_eq_right (by omega), Nat.min_eq_right inside, Source.lineFeeds_succ]
      split
      · rename_i feed
        rw [List.countP_cons, if_pos (by simpa using inside)]
        omega
      · omega
    · rw [Nat.min_eq_left (by omega), Nat.min_eq_left (by omega)]
      split
      · rw [List.countP_cons, if_neg (by simpa using inside)]
        omega
      · rfl

theorem starts_sorted (s : Source) : (ofSource s).starts.toList.Pairwise (· < ·) := by
  rw [ofSource, List.toList_toArray]
  refine List.pairwise_cons.mpr ⟨?_, startsFrom_sorted s s.size 0⟩
  exact fun j later => lt_of_mem_startsFrom later

/-- Lines start at zero and behind each line feed. -/
theorem mem_starts_iff {s : Source} {j : Nat} :
    j ∈ (ofSource s).starts.toList ↔ j = 0 ∨ ∃ k, s.byte? k = some 10 ∧ j = k + 1 := by
  rw [ofSource, List.toList_toArray, List.mem_cons, mem_startsFrom_iff]
  refine or_congr_right ⟨?_, ?_⟩
  · rintro ⟨k, _, _, feed, same⟩
    exact ⟨k, feed, same⟩
  · rintro ⟨k, feed, same⟩
    refine ⟨k, Nat.zero_le k, ?_, feed, same⟩
    by_contra past
    rw [Source.byte?_eq_none (by omega)] at feed
    cases feed

theorem lineStart_eq_getElem {s : Source} {i : Nat} (inside : i < (ofSource s).starts.toList.length) :
    (ofSource s).lineStart i = (ofSource s).starts.toList[i] := by
  rw [Array.length_toList] at inside
  unfold lineStart
  rw [Array.getD_eq_getD_getElem?, Array.getElem?_eq_getElem inside, Option.getD_some,
    Array.getElem_toList]

theorem countP_starts (s : Source) (offset : Nat) :
    (ofSource s).starts.toList.countP (· ≤ offset) = s.lineFeeds offset + 1 := by
  have counted := countP_startsFrom s offset s.size 0
  rw [Nat.min_zero, Nat.zero_add, Source.lineFeeds_min_size] at counted
  rw [ofSource, List.toList_toArray, List.countP_cons, ← counted]
  simp [Source.lineFeeds]

/-! ### Bisection -/

theorem lineStart_mono {s : Source} {i j : Nat} (order : i ≤ j)
    (bound : j < (ofSource s).lineCount) :
    (ofSource s).lineStart i ≤ (ofSource s).lineStart j := by
  rcases Nat.lt_or_eq_of_le order with less | rfl
  · have insideI : i < (ofSource s).starts.toList.length := Nat.lt_trans less bound
    have insideJ : j < (ofSource s).starts.toList.length := bound
    rw [lineStart_eq_getElem insideI, lineStart_eq_getElem insideJ]
    exact Nat.le_of_lt (List.pairwise_iff_getElem.mp (starts_sorted s) i j insideI insideJ less)
  · exact Nat.le_refl _

/-- Bisection ends where the entries up to an offset end. -/
theorem countUpTo_cut (s : Source) (offset lo hi : Nat) (order : lo ≤ hi)
    (bound : hi ≤ (ofSource s).lineCount)
    (low : ∀ i < lo, (ofSource s).lineStart i ≤ offset)
    (high : ∀ i, hi ≤ i → i < (ofSource s).lineCount → offset < (ofSource s).lineStart i) :
    (ofSource s).countUpTo offset lo hi ≤ (ofSource s).lineCount ∧
      (∀ i < (ofSource s).countUpTo offset lo hi, (ofSource s).lineStart i ≤ offset) ∧
      ∀ i, (ofSource s).countUpTo offset lo hi ≤ i → i < (ofSource s).lineCount →
        offset < (ofSource s).lineStart i := by
  fun_induction countUpTo (ofSource s) offset lo hi with
  | case1 lo hi less mid reached ih =>
    refine ih (by omega) bound ?_ high
    intro i below
    exact Nat.le_trans (lineStart_mono (j := mid) (by omega) (by omega)) reached
  | case2 lo hi less mid passed ih =>
    refine ih (by omega) (by omega) low ?_
    intro i above inside
    exact Nat.lt_of_lt_of_le (Nat.not_le.mp passed) (lineStart_mono above inside)
  | case3 lo hi done => exact ⟨by omega, low, fun i above => high i (by omega)⟩

theorem countUpTo_eq (s : Source) (offset : Nat) :
    (ofSource s).countUpTo offset 0 (ofSource s).lineCount = s.lineFeeds offset + 1 := by
  obtain ⟨bound, low, high⟩ := countUpTo_cut s offset 0 (ofSource s).lineCount (Nat.zero_le _)
    (Nat.le_refl _) (fun i below => absurd below (Nat.not_lt_zero i))
    (fun i above inside => absurd inside (Nat.not_lt.mpr above))
  generalize (ofSource s).countUpTo offset 0 (ofSource s).lineCount = k at bound low high ⊢
  rw [← countP_starts, ← List.take_append_drop k (ofSource s).starts.toList, List.countP_append,
    List.countP_eq_length.mpr, List.countP_eq_zero.mpr, List.length_take, Array.length_toList]
  · exact (Nat.min_eq_left bound).symm
  · intro start member
    obtain ⟨i, inside, rfl⟩ := List.mem_drop_iff_getElem.mp member
    have above := high (i + k) (Nat.le_add_left k i) (by simpa [lineCount, Nat.add_comm] using inside)
    rw [lineStart_eq_getElem (by omega)] at above
    simpa [Nat.add_comm] using above
  · intro start member
    obtain ⟨i, inside, rfl⟩ := List.mem_take_iff_getElem.mp member
    have below := low i (by omega)
    rw [lineStart_eq_getElem (by omega)] at below
    exact decide_eq_true below

/-- The line of an offset is the number of line feeds in front of it. -/
theorem line_ofSource (s : Source) (offset : Nat) :
    (ofSource s).line offset = s.lineFeeds offset := by
  rw [line, countUpTo_eq, Nat.add_sub_cancel]

theorem line_lt_lineCount (s : Source) (offset : Nat) :
    (ofSource s).line offset < (ofSource s).lineCount := by
  rw [line_ofSource, lineCount, ← Array.length_toList, ← Nat.add_one_le_iff, ← countP_starts]
  exact List.countP_le_length

/-- The lines up to that of an offset are those that start no later than the offset. -/
theorem lineStart_le_iff {s : Source} {offset i : Nat} (inside : i < (ofSource s).lineCount) :
    (ofSource s).lineStart i ≤ offset ↔ i ≤ (ofSource s).line offset := by
  obtain ⟨_, low, high⟩ := countUpTo_cut s offset 0 (ofSource s).lineCount (Nat.zero_le _)
    (Nat.le_refl _) (fun i below => absurd below (Nat.not_lt_zero i))
    (fun i above inside => absurd inside (Nat.not_lt.mpr above))
  rw [countUpTo_eq] at low high
  rw [line_ofSource]
  constructor
  · intro reached
    by_contra behind
    exact absurd (high i (by omega) inside) (Nat.not_lt.mpr reached)
  · intro upTo
    exact low i (Nat.lt_succ_of_le upTo)

/-- A line starts no later than any offset on it. -/
theorem lineStart_line_le (s : Source) (offset : Nat) :
    (ofSource s).lineStart ((ofSource s).line offset) ≤ offset :=
  (lineStart_le_iff (line_lt_lineCount s offset)).mpr (Nat.le_refl _)

/-- The line of an offset starts behind the last line feed in front of the offset, or at zero. -/
theorem isGreatest_lineStart (s : Source) (offset : Nat) :
    IsGreatest {start | start = 0 ∨ ∃ i < offset, s.byte? i = some 10 ∧ start = i + 1}
      ((ofSource s).lineStart ((ofSource s).line offset)) := by
  have starts := lineStart_line_le s offset
  have inside : (ofSource s).line offset < (ofSource s).starts.toList.length :=
    line_lt_lineCount s offset
  constructor
  · have listed : (ofSource s).lineStart ((ofSource s).line offset) ∈ (ofSource s).starts.toList := by
      rw [lineStart_eq_getElem inside]
      exact List.getElem_mem inside
    rcases mem_starts_iff.mp listed with zero | ⟨i, feed, behind⟩
    · exact Or.inl zero
    · exact Or.inr ⟨i, by omega, feed, behind⟩
  · intro start placed
    have reached : start ≤ offset := by
      rcases placed with rfl | ⟨i, before, _, rfl⟩
      · exact Nat.zero_le offset
      · exact before
    have listed : start ∈ (ofSource s).starts.toList :=
      mem_starts_iff.mpr (placed.imp_right fun ⟨i, _, feed, behind⟩ => ⟨i, feed, behind⟩)
    obtain ⟨k, insideK, rfl⟩ := List.mem_iff_getElem.mp listed
    rw [← lineStart_eq_getElem insideK] at reached ⊢
    exact lineStart_mono ((lineStart_le_iff insideK).mp reached) inside

/-- The indentation of a line ends at the first byte that is neither a space nor a tab. -/
theorem indentFrom_le {s : Source} {fuel i j : Nat} (order : i ≤ j)
    (solid : (s.byte? j).any isIndentByte = false) : indentFrom s fuel i ≤ j - i := by
  induction fuel generalizing i with
  | zero => exact Nat.zero_le _
  | succ fuel ih =>
    rw [indentFrom]
    split
    · rename_i blank
      have earlier : i ≠ j := by
        rintro rfl
        rw [solid] at blank
        cases blank
      have rest := ih (i := i + 1) (by omega)
      omega
    · exact Nat.zero_le _

end LineIndex

theorem isMultilineText_iff_mem {text : String} : isMultilineText text = true ↔ '\n' ∈ text.toList := by
  have feed : (Source.mk "\n").bytes = [10] := by decide
  rw [isMultilineText, containsText_iff_isInfix, feed, List.singleton_infix_iff, Source.bytes,
    List.mem_flatMap]
  constructor
  · rintro ⟨c, member, byte⟩
    have code : c.toNat = ('\n').toNat := Utf8.toNat_of_mem_of_lt byte (by decide)
    rwa [← Char.toNat_inj.mp code]
  · exact fun member => ⟨'\n', member, by decide⟩

/-- A text is on several lines exactly when a line feed stands under its span. -/
theorem isMultilineText_text_iff {doc : Document} {span : Span} (sliceable : doc.source.Sliceable span) :
    isMultilineText (doc.text span) = true ↔ doc.source.CrossesLine span := by
  obtain ⟨text, sliced⟩ := Option.isSome_iff_exists.mp ((doc.source.sliceable_iff span).mp sliceable)
  have size : text.utf8ByteSize = span.stop - span.start := Source.size_of_slice? sliced
  have feed : ∀ i, (Source.mk text).hasAt "\n" i = true ↔ (Source.mk text).byte? i = some 10 :=
    fun _ => Source.hasAt_iff_byte? (by decide) (by decide)
  have width : ("\n" : String).utf8ByteSize = 1 := by decide
  rw [Document.text, Source.slice, sliced, Option.getD_some, isMultilineText, containsText,
    Source.find?_isSome_iff, width, size]
  constructor
  · rintro ⟨i, _, high, here⟩
    refine ⟨span.start + i, by omega, by omega, ?_⟩
    rw [← Source.byte?_of_slice? sliced (by omega)]
    exact (feed i).mp here
  · rintro ⟨i, low, high, here⟩
    refine ⟨i - span.start, by omega, by omega, (feed _).mpr ?_⟩
    rw [Source.byte?_of_slice? sliced (by omega), show span.start + (i - span.start) = i by omega]
    exact here

namespace Document

variable (text : String) (dialect : Dialect) (path : Option String) (comments : List Span)

theorem line_ofText (offset : Nat) :
    (ofText text dialect path comments).line offset = (Source.mk text).lineFeeds offset :=
  LineIndex.line_ofSource _ offset

/-- A span starts and ends on different lines exactly when a line feed stands under it. -/
theorem isMultiline_ofText {span : Span} (order : span.start ≤ span.stop) :
    (ofText text dialect path comments).isMultiline span = true ↔
      (Source.mk text).CrossesLine span := by
  rw [isMultiline, line_ofText, line_ofText, bne_iff_ne, ← Source.lineFeeds_lt_iff _ order]
  have mono := (Source.mk text).lineFeeds_mono order
  omega

/-- To ask for the lines of its ends and to ask for a line feed in its text is the same for a span. -/
theorem isMultiline_eq_isMultilineText {span : Span} (sliceable : (Source.mk text).Sliceable span) :
    (ofText text dialect path comments).isMultiline span =
      isMultilineText ((ofText text dialect path comments).text span) := by
  have ofDocument : (ofText text dialect path comments).source.Sliceable span := sliceable
  rw [Bool.eq_iff_iff, isMultiline_ofText _ _ _ _ sliceable.ordered]
  exact (isMultilineText_text_iff ofDocument).symm

end Document

end JsxCheck
