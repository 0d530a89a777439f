import JsxCheck.Proofs.Source.Bytes
import JsxCheck.Proofs.Source.Search

/-!
Where a text can be cut.

An offset splits no character just when the characters of the text fall into those in front of it and
those behind it. A byte below 128 is a character by itself, so a text can be cut on both sides of it.
-/
namespace JsxCheck

namespace Utf8

theorem not_isContinuation_of_head {c : Char} {b : UInt8}
    (first : b ∈ (String.utf8EncodeChar c).head?) : Source.isContinuation b = false := by
  have byte : ∀ n, n < 256 → n < 128 ∨ 192 ≤ n → Source.isContinuation (UInt8.ofNat n) = false := by
    intro n small outside
    simp only [Source.isContinuation, Bool.and_eq_false_iff, decide_eq_false_iff_not,
      UInt8.le_iff_toNat_le, UInt8.lt_iff_toNat_lt, UInt8.toNat_ofNat_of_lt' small]
    rcases outside with low | high
    · exact Or.inl (Nat.not_le.mpr low)
    · exact Or.inr (Nat.not_lt.mpr high)
  unfold String.utf8EncodeChar at first
  dsimp only at first
  split at first
  · cases first
    exact byte _ (by omega) (Or.inl (by omega))
  split at first
  · cases first
    exact byte _ (by omega) (Or.inr (by omega))
  split at first
  · cases first
    exact byte _ (by omega) (Or.inr (by omega))
  · cases first
    exact byte _ (by omega) (Or.inr (by omega))

end Utf8

namespace Source

/-- A text can be cut where no character is split. -/
theorem isBoundary_iff (s : Source) (i : Nat) :
    s.isBoundary i = true ↔
      ∃ l r, s.text.toList = l ++ r ∧ (l.flatMap String.utf8EncodeChar).length = i := by
  refine ⟨split_of_isBoundary, ?_⟩
  rintro ⟨l, r, split, rfl⟩
  have whole : s.bytes = l.flatMap String.utf8EncodeChar ++ r.flatMap String.utf8EncodeChar := by
    rw [bytes, split, List.flatMap_append]
  rw [isBoundary, byte?_eq, size_eq, whole, List.getElem?_append_right (Nat.le_refl _), Nat.sub_self]
  cases r with
  | nil => simp
  | cons c r =>
    obtain ⟨b, rest, form⟩ := Utf8.exists_encode_eq_cons c
    have first := Utf8.not_isContinuation_of_head (c := c) (b := b) (by rw [form]; rfl)
    rw [List.flatMap_cons, form]
    simp [first]

theorem le_size_of_isBoundary {s : Source} {i : Nat} (boundary : s.isBoundary i = true) :
    i ≤ s.size := by
  obtain ⟨l, r, split, rfl⟩ := split_of_isBoundary boundary
  rw [size_eq, bytes, split, List.flatMap_append, List.length_append]
  exact Nat.le_add_right _ _

/-- A text can be cut in front of and behind a byte below 128. -/
theorem isBoundary_of_byte? {s : Source} {i : Nat} {b : UInt8} (here : s.byte? i = some b)
    (ascii : b.toNat < 128) : s.isBoundary i = true ∧ s.isBoundary (i + 1) = true := by
  have begins : s.isBoundary i = true := by
    have low : ¬ 128 ≤ b := by
      rw [UInt8.le_iff_toNat_le]
      exact Nat.not_le.mpr ascii
    simp [isBoundary, here, isContinuation, low]
  refine ⟨begins, (s.isBoundary_iff _).mpr ?_⟩
  obtain ⟨l, r, split, rfl⟩ := split_of_isBoundary begins
  rw [byte?_eq, bytes, split, List.flatMap_append, List.getElem?_append_right (Nat.le_refl _),
    Nat.sub_self] at here
  cases r with
  | nil => cases here
  | cons c r =>
    -- The character at the cut has a byte below 128 and is no longer than that.
    have single : (String.utf8EncodeChar c).length = 1 := by
      obtain ⟨first, rest, form⟩ := Utf8.exists_encode_eq_cons c
      rw [List.flatMap_cons, form] at here
      have member : b ∈ String.utf8EncodeChar c := by
        rw [form, ← Option.some.inj here]
        exact List.mem_cons_self
      have code := Utf8.toNat_of_mem_of_lt member ascii
      rw [String.length_utf8EncodeChar, Char.utf8Size_eq_one_iff, UInt32.le_iff_toNat_le]
      show c.toNat ≤ 127
      omega
    refine ⟨l ++ [c], r, by rw [split, List.append_assoc]; rfl, ?_⟩
    rw [List.flatMap_append, List.length_append, List.flatMap_singleton, single]

theorem isBoundary_of_hasAt {s : Source} {needle : String} {i k : Nat} {b : UInt8}
    (here : s.hasAt needle i = true) (byte : (Source.mk needle).byte? k = some b)
    (ascii : b.toNat < 128) :
    s.isBoundary (i + k) = true ∧ s.isBoundary (i + k + 1) = true := by
  refine isBoundary_of_byte? ?_ ascii
  have inside : k < needle.utf8ByteSize := by
    unfold byte? at byte
    split at byte
    · assumption
    · cases byte
  have same := List.all_eq_true.mp here k (List.mem_range.mpr inside)
  rw [beq_iff_eq.mp same, byte]

theorem isBoundary_of_charBefore? {s : Source} {i : Nat} {c : Char}
    (before : s.charBefore? i = some c) : s.isBoundary i = true := by
  unfold charBefore? at before
  split at before
  · assumption
  · cases before

/-! ### Spans that can be replaced -/

/-- The ends of a span are in order and split no character. -/
structure Sliceable (s : Source) (span : Span) : Prop where
  ordered : span.start ≤ span.stop
  starts : s.isBoundary span.start = true
  stops : s.isBoundary span.stop = true

theorem Sliceable.bounded {s : Source} {span : Span} (sliceable : s.Sliceable span) :
    span.stop ≤ s.size := le_size_of_isBoundary sliceable.stops

theorem sliceable_point {s : Source} {i : Nat} (boundary : s.isBoundary i = true) :
    s.Sliceable (.point i) :=
  ⟨Nat.le_refl i, boundary, boundary⟩

/-- These are the spans that have a slice. -/
theorem sliceable_iff (s : Source) (span : Span) :
    s.Sliceable span ↔ (s.slice? span.start span.stop).isSome = true := by
  unfold slice?
  split
  · rename_i valid
    simp only [Bool.and_eq_true, decide_eq_true_eq] at valid
    obtain ⟨⟨⟨order, _⟩, low⟩, high⟩ := valid
    exact ⟨fun _ => rfl, fun _ => ⟨order, low, high⟩⟩
  · rename_i invalid
    refine ⟨fun sliceable => absurd ?_ invalid, nofun⟩
    simp [sliceable.ordered, sliceable.bounded, sliceable.starts, sliceable.stops]

theorem Sliceable.bytes_slice {s : Source} {span : Span} (sliceable : s.Sliceable span) :
    (Source.mk (s.slice span)).bytes = (s.bytes.take span.stop).drop span.start := by
  obtain ⟨text, sliced⟩ := Option.isSome_iff_exists.mp ((s.sliceable_iff span).mp sliceable)
  rw [slice, sliced, Option.getD_some]
  exact (bytes_of_slice? sliced).2.2

/-- A slice with what is in front of it and behind it is the whole. -/
theorem Sliceable.bytes_eq_append {s : Source} {span : Span} (sliceable : s.Sliceable span) :
    s.bytes =
      s.bytes.take span.start ++ (Source.mk (s.slice span)).bytes ++ s.bytes.drop span.stop := by
  have front : (s.bytes.take span.stop).take span.start = s.bytes.take span.start := by
    rw [List.take_take, Nat.min_eq_left sliceable.ordered]
  rw [sliceable.bytes_slice, ← front, List.take_append_drop, List.take_append_drop]

theorem byte?_of_slice? {s : Source} {start stop i : Nat} {text : String}
    (sliced : s.slice? start stop = some text) (inside : start + i < stop) :
    (Source.mk text).byte? i = s.byte? (start + i) := by
  obtain ⟨_, _, same⟩ := bytes_of_slice? sliced
  rw [byte?_eq, byte?_eq, same, List.getElem?_drop, List.getElem?_take_of_lt inside]

/-- Between two cuts stand the characters that are behind the one and in front of the other. -/
theorem slice?_of_split {s : Source} {l m r : List Char} (split : s.text.toList = l ++ m ++ r) :
    s.slice? (String.utf8Len l) (String.utf8Len l + String.utf8Len m) = some (String.ofList m) := by
  have starts : s.isBoundary (String.utf8Len l) = true :=
    (s.isBoundary_iff _).mpr ⟨l, m ++ r, by rw [split, List.append_assoc], Utf8.length_flatMap l⟩
  have stops : s.isBoundary (String.utf8Len l + String.utf8Len m) = true := by
    refine (s.isBoundary_iff _).mpr ⟨l ++ m, r, split, ?_⟩
    rw [Utf8.length_flatMap, String.utf8Len_append]
  have valid : (decide (String.utf8Len l ≤ String.utf8Len l + String.utf8Len m) &&
      decide (String.utf8Len l + String.utf8Len m ≤ s.size) && s.isBoundary (String.utf8Len l) &&
        s.isBoundary (String.utf8Len l + String.utf8Len m)) = true := by
    rw [starts, stops, decide_eq_true (Nat.le_add_right _ _),
      decide_eq_true (le_size_of_isBoundary stops)]
    rfl
  have text : s.text = String.ofList (l ++ m ++ r) := by rw [← split, String.ofList_toList]
  rw [slice?, if_pos valid, text, String.extract_of_valid]

/-- A span that can be cut out stands between the characters in front of it and those behind it. -/
theorem Sliceable.exists_split {s : Source} {span : Span} (sliceable : s.Sliceable span) :
    ∃ l m r, s.text.toList = l ++ m ++ r ∧ String.utf8Len l = span.start ∧
      String.utf8Len l + String.utf8Len m = span.stop ∧
        s.slice? span.start span.stop = some (String.ofList m) := by
  obtain ⟨l, r, split, start⟩ := split_of_isBoundary sliceable.starts
  obtain ⟨l', r', split', stop⟩ := split_of_isBoundary sliceable.stops
  obtain ⟨m, rfl, _⟩ := Utf8.exists_append_of_le (split.symm.trans split') (by
    rw [start, stop]
    exact sliceable.ordered)
  rw [Utf8.length_flatMap] at start stop
  rw [String.utf8Len_append] at stop
  exact ⟨l, m, r', split', start, stop, start ▸ stop ▸ slice?_of_split split'⟩

theorem size_of_slice? {s : Source} {start stop : Nat} {text : String}
    (sliced : s.slice? start stop = some text) : (Source.mk text).size = stop - start := by
  obtain ⟨_, bound, same⟩ := bytes_of_slice? sliced
  rw [size_eq] at bound
  rw [size_eq, same, List.length_drop, List.length_take, Nat.min_eq_left bound]

theorem isBoundary_slice? {s : Source} {start stop i : Nat} {text : String}
    (sliced : s.slice? start stop = some text) (inside : start + i ≤ stop) :
    (Source.mk text).isBoundary i = s.isBoundary (start + i) := by
  have size := size_of_slice? sliced
  rcases Nat.lt_or_eq_of_le inside with less | ends
  · obtain ⟨b, here⟩ : ∃ b, (Source.mk text).byte? i = some b := by
      rw [byte?_eq, List.getElem?_eq_getElem (by rw [← size_eq]; omega)]
      exact ⟨_, rfl⟩
    unfold isBoundary
    rw [← byte?_of_slice? sliced less, here]
  · have whole := (s.sliceable_iff ⟨start, stop⟩).mpr (by rw [sliced]; rfl)
    have last : (Source.mk text).isBoundary i = true := by
      rw [isBoundary, byte?_eq, List.getElem?_eq_none (by rw [← size_eq]; omega)]
      simp [size, ← ends]
    rw [last, ends, whole.stops]

theorem isBoundary_of_slice? {s : Source} {start stop i : Nat} {text : String}
    (sliced : s.slice? start stop = some text)
    (boundary : (Source.mk text).isBoundary i = true) : s.isBoundary (start + i) = true := by
  obtain ⟨order, _, _⟩ := bytes_of_slice? sliced
  have inside := le_size_of_isBoundary boundary
  rw [size_of_slice? sliced] at inside
  rw [← isBoundary_slice? sliced (by omega)]
  exact boundary

end Source

theorem sliceable_of_whitespaceGap {s : Source} {comments : List Span} {start stop : Nat} {gap : Gap}
    (found : whitespaceGap s comments start stop = some gap) : s.Sliceable gap.span := by
  unfold whitespaceGap at found
  split at found
  · cases found
  · split at found
    · cases found
    · rename_i sliced
      dsimp only at found
      split at found
      · cases found
        rw [Option.isNone_iff_eq_none] at sliced
        exact (s.sliceable_iff ⟨start, stop⟩).mpr (Option.isSome_iff_ne_none.mpr sliced)
      · cases found

end JsxCheck
