import JsxCheck.Proofs.Source.Bytes
import JsxCheck.Source.Gap
import Mathlib.Data.List.Basic

/-!
Where a search finds what it looks for.

A hit lies between the ends of the search, and the occurrences of a needle lie beside each other.
-/
namespace JsxCheck

namespace Source

theorem findFrom_spec {s : Source} {needle : String} {fuel i hit : Nat}
    (found : s.findFrom needle fuel i = some hit) :
    i ≤ hit ∧ hit < i + fuel ∧ s.hasAt needle hit = true := by
  induction fuel generalizing i with
  | zero => cases found
  | succ fuel ih =>
    rw [findFrom] at found
    split at found
    · rename_i here
      cases found
      exact ⟨Nat.le_refl _, by omega, here⟩
    · obtain ⟨low, high, here⟩ := ih found
      exact ⟨by omega, by omega, here⟩

theorem find?_spec {s : Source} {needle : String} {start stop hit : Nat}
    (found : s.find? needle start stop = some hit) :
    start ≤ hit ∧ hit + needle.utf8ByteSize ≤ stop ∧ s.hasAt needle hit = true := by
  unfold find? at found
  split at found
  · obtain ⟨low, high, here⟩ := findFrom_spec found
    exact ⟨low, by omega, here⟩
  · cases found

theorem findFrom_isSome {s : Source} {needle : String} {fuel i k : Nat} (low : i ≤ k)
    (high : k < i + fuel) (here : s.hasAt needle k = true) : (s.findFrom needle fuel i).isSome = true := by
  induction fuel generalizing i with
  | zero => omega
  | succ fuel ih =>
    rw [findFrom]
    split
    · rfl
    · rename_i absent
      have differ : i ≠ k := fun same => absent (same ▸ here)
      exact ih (by omega) (by omega)

/-- A search succeeds exactly when the needle stands somewhere between its ends. -/
theorem find?_isSome_iff {s : Source} {needle : String} {start stop : Nat} :
    (s.find? needle start stop).isSome = true ↔
      ∃ i, start ≤ i ∧ i + needle.utf8ByteSize ≤ stop ∧ s.hasAt needle i = true := by
  constructor
  · intro found
    obtain ⟨hit, found⟩ := Option.isSome_iff_exists.mp found
    exact ⟨hit, find?_spec found⟩
  · rintro ⟨i, low, high, here⟩
    rw [find?, if_pos (by omega)]
    exact findFrom_isSome low (by omega) here

theorem occurrencesFrom_le {s : Source} {needle : String} {fuel i hit : Nat}
    (member : hit ∈ s.occurrencesFrom needle fuel i) :
    i ≤ hit ∧ hit + needle.utf8ByteSize ≤ s.size ∧ s.hasAt needle hit = true := by
  induction fuel generalizing i with
  | zero => cases member
  | succ fuel ih =>
    rw [occurrencesFrom] at member
    split at member
    · rename_i first found
      have bounds := find?_spec found
      rcases List.mem_cons.mp member with rfl | later
      · exact bounds
      · obtain ⟨low, rest⟩ := ih later
        exact ⟨by omega, rest⟩
    · cases member

theorem occurrencesFrom_beside (s : Source) (needle : String) (fuel i : Nat) :
    (s.occurrencesFrom needle fuel i).Pairwise fun a b => a + needle.utf8ByteSize ≤ b := by
  induction fuel generalizing i with
  | zero => exact List.Pairwise.nil
  | succ fuel ih =>
    rw [occurrencesFrom]
    split
    · exact List.pairwise_cons.mpr ⟨fun b later => (occurrencesFrom_le later).1, ih _⟩
    · exact List.Pairwise.nil

theorem byte?_of_hasAt {s : Source} {needle : String} {i k : Nat} (here : s.hasAt needle i = true)
    (inside : k < needle.utf8ByteSize) : s.byte? (i + k) = (Source.mk needle).byte? k :=
  beq_iff_eq.mp (List.all_eq_true.mp here k (List.mem_range.mpr inside))

theorem hasAt_of_append {s : Source} {front back : String} {i : Nat}
    (here : s.hasAt (front ++ back) i = true) : s.hasAt front i = true := by
  refine List.all_eq_true.mpr fun k inside => beq_iff_eq.mpr ?_
  have short : k < front.utf8ByteSize := List.mem_range.mp inside
  have bytes : (Source.mk (front ++ back)).bytes = (Source.mk front).bytes ++ (Source.mk back).bytes := by
    simp [Source.bytes]
  rw [byte?_of_hasAt here (by rw [String.utf8ByteSize_append]; omega), byte?_eq, byte?_eq, bytes,
    List.getElem?_append_left (by rw [← size_eq]; exact short)]

end Source

theorem containsText_of_append {text front back : String}
    (holds : containsText text (front ++ back) = true) : containsText text front = true := by
  obtain ⟨i, low, high, here⟩ := Source.find?_isSome_iff.mp holds
  rw [String.utf8ByteSize_append] at high
  exact Source.find?_isSome_iff.mpr ⟨i, low, by omega, Source.hasAt_of_append here⟩

theorem findTokenFrom_spec {s : Source} {comments : List Span} {needle : String}
    {stop fuel i hit : Nat}
    (found : findTokenFrom s comments needle stop fuel i = some hit) :
    i ≤ hit ∧ hit + needle.utf8ByteSize ≤ stop ∧ s.hasAt needle hit = true := by
  induction fuel generalizing i with
  | zero => cases found
  | succ fuel ih =>
    rw [findTokenFrom] at found
    split at found
    · cases found
    · rename_i first here
      obtain ⟨low, high, stands⟩ := Source.find?_spec here
      split at found
      · rename_i comment inside
        obtain ⟨after, rest⟩ := ih found
        have within := List.find?_some inside
        simp only [Span.contains, Bool.and_eq_true, decide_eq_true_eq] at within
        exact ⟨by omega, rest⟩
      · cases found
        exact ⟨low, high, stands⟩

/-- A token is found between the ends of the search. -/
theorem findToken_spec {s : Source} {comments : List Span} {needle : String} {start stop hit : Nat}
    (found : findToken s comments start stop needle = some hit) :
    start ≤ hit ∧ hit + needle.utf8ByteSize ≤ stop ∧ s.hasAt needle hit = true := by
  unfold findToken at found
  split at found
  · exact findTokenFrom_spec found
  · cases found

end JsxCheck
