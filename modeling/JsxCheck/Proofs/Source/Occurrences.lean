import JsxCheck.Proofs.Source.Search

/-!
All occurrences of a needle.

A search stops at the first occurrence. So where no occurrence begins inside another, going on behind each
one misses none (`mem_occurrencesFrom_iff`).
-/
namespace JsxCheck

namespace Source

variable {s : Source} {needle : String} {i hit fuel : Nat}

/-- A needle stands at an offset when the text goes on with its bytes there. -/
theorem hasAt_iff_isPrefix : s.hasAt needle i = true ↔ (Source.mk needle).bytes <+: s.bytes.drop i := by
  have size : needle.utf8ByteSize = (Source.mk needle).bytes.length := (Source.mk needle).size_eq
  simp only [hasAt, List.all_eq_true, List.mem_range, beq_iff_eq, byte?_eq, size,
    List.prefix_iff_getElem?, List.getElem?_drop]
  refine forall_congr' fun k => forall_congr' fun inside => ?_
  rw [List.getElem?_eq_getElem inside]

/-- A needle of one byte stands where that byte is. -/
theorem hasAt_iff_byte? {b : UInt8} (size : needle.utf8ByteSize = 1)
    (byte : (Source.mk needle).byte? 0 = some b) : s.hasAt needle i = true ↔ s.byte? i = some b := by
  simp [hasAt, size, byte]

theorem add_size_le_of_hasAt (positive : 0 < needle.utf8ByteSize) (here : s.hasAt needle i = true) :
    i + needle.utf8ByteSize ≤ s.size := by
  have length := (hasAt_iff_isPrefix.mp here).length_le
  rw [List.length_drop, ← size_eq, ← size_eq] at length
  change needle.utf8ByteSize ≤ s.size - i at length
  omega

theorem findFrom_first (found : s.findFrom needle fuel i = some hit) :
    ∀ k, i ≤ k → k < hit → s.hasAt needle k = false := by
  induction fuel generalizing i with
  | zero => cases found
  | succ fuel ih =>
    rw [findFrom] at found
    split at found
    · cases found
      exact fun k low high => absurd high (Nat.not_lt.mpr low)
    · rename_i absent
      intro k low high
      rcases Nat.eq_or_lt_of_le low with rfl | later
      · exact Bool.not_eq_true _ ▸ absent
      · exact ih found k later high

theorem find?_first {start stop : Nat} (found : s.find? needle start stop = some hit) :
    ∀ k, start ≤ k → k < hit → s.hasAt needle k = false := by
  unfold find? at found
  split at found
  · exact findFrom_first found
  · cases found

/-- Where no occurrence begins inside another, the occurrences listed are those from an offset on. -/
theorem mem_occurrencesFrom_iff (positive : 0 < needle.utf8ByteSize)
    (apart : ∀ j k, s.hasAt needle j = true → s.hasAt needle k = true → j < k →
      j + needle.utf8ByteSize ≤ k)
    (enough : s.size < i + fuel) :
    hit ∈ s.occurrencesFrom needle fuel i ↔ i ≤ hit ∧ s.hasAt needle hit = true := by
  refine ⟨fun member => ⟨(occurrencesFrom_le member).1, (occurrencesFrom_le member).2.2⟩, ?_⟩
  rintro ⟨low, here⟩
  have high := add_size_le_of_hasAt positive here
  induction fuel generalizing i with
  | zero => omega
  | succ fuel ih =>
    rw [occurrencesFrom]
    split
    · rename_i first found
      obtain ⟨after, _, stands⟩ := find?_spec found
      rcases Nat.lt_trichotomy hit first with before | rfl | later
      · rw [find?_first found hit low before] at here
        cases here
      · exact List.mem_cons_self
      · exact List.mem_cons_of_mem _ (ih (by omega) (apart first hit stands here later))
    · rename_i missing
      have found := find?_isSome_iff.mpr ⟨hit, low, high, here⟩
      rw [missing] at found
      cases found

end Source

theorem containsText_iff_isInfix {text needle : String} :
    containsText text needle = true ↔ (Source.mk needle).bytes <:+: (Source.mk text).bytes := by
  rw [containsText, Source.find?_isSome_iff]
  constructor
  · rintro ⟨i, _, _, here⟩
    exact (Source.hasAt_iff_isPrefix.mp here).isInfix.trans (List.drop_suffix _ _).isInfix
  · rintro ⟨front, back, whole⟩
    refine ⟨front.length, Nat.zero_le _, ?_, Source.hasAt_iff_isPrefix.mpr ?_⟩
    · have length := congrArg List.length whole
      rw [List.length_append, List.length_append, ← Source.size_eq, ← Source.size_eq] at length
      change front.length + needle.utf8ByteSize + back.length = text.utf8ByteSize at length
      omega
    · rw [← whole, List.append_assoc, List.drop_left]
      exact List.prefix_append _ _

end JsxCheck
