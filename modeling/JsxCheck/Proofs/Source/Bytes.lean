import JsxCheck.Source.Text
import JsxCheck.Text.Blank
import Mathlib.Data.String.Basic

/-!
The bytes of a text.

`bytes_of_slice?` says that a slice has the bytes between its ends. A byte below 128 is a character
by itself, so a text holds such a byte only where it holds the character.
-/
namespace JsxCheck

/-- The UTF-8 form of a text. -/
def Source.bytes (s : Source) : List UInt8 := s.text.toList.flatMap String.utf8EncodeChar

namespace Utf8

theorem exists_encode_eq_cons (c : Char) : ∃ b rest, String.utf8EncodeChar c = b :: rest := by
  refine List.exists_cons_of_length_pos ?_
  rw [String.length_utf8EncodeChar]
  exact c.utf8Size_pos

/-- All bytes of a character after the first continue it. -/
theorem isContinuation_of_mem_tail {c : Char} {b : UInt8}
    (later : b ∈ (String.utf8EncodeChar c).tail) : Source.isContinuation b = true := by
  have byte : ∀ n, Source.isContinuation (UInt8.ofNat (n % 64 + 128)) = true := by
    intro n
    have small : n % 64 + 128 < 256 := by omega
    simp only [Source.isContinuation, Bool.and_eq_true, decide_eq_true_eq, UInt8.le_iff_toNat_le,
      UInt8.lt_iff_toNat_lt, UInt8.toNat_ofNat_of_lt' small]
    constructor
    · show 128 ≤ _
      omega
    · show _ < 192
      omega
  unfold String.utf8EncodeChar at later
  dsimp only at later
  split at later
  · cases later
  split at later
  · simp only [List.tail_cons, List.mem_cons, List.not_mem_nil, or_false] at later
    subst later
    exact byte _
  split at later
  · simp only [List.tail_cons, List.mem_cons, List.not_mem_nil, or_false] at later
    rcases later with rfl | rfl <;> exact byte _
  · simp only [List.tail_cons, List.mem_cons, List.not_mem_nil, or_false] at later
    rcases later with rfl | rfl | rfl <;> exact byte _

/-- A character with a byte below 128 is that byte. -/
theorem toNat_of_mem_of_lt {c : Char} {b : UInt8} (member : b ∈ String.utf8EncodeChar c)
    (ascii : b.toNat < 128) : c.toNat = b.toNat := by
  have high : ∀ n m, 128 ≤ m → n + m < 256 → ¬ (UInt8.ofNat (n + m)).toNat < 128 := by
    intro n m low small
    rw [UInt8.toNat_ofNat_of_lt' small]
    omega
  unfold String.utf8EncodeChar at member
  dsimp only at member
  split at member
  · rename_i one
    obtain rfl := List.mem_singleton.mp member
    rw [UInt8.toNat_ofNat_of_lt' (show c.val.toNat < 256 by omega)]
    rfl
  -- Every byte of a longer form is 128 or more.
  split at member
  · simp only [List.mem_cons, List.not_mem_nil, or_false] at member
    rcases member with rfl | rfl
    all_goals exact absurd ascii (high _ _ (by omega) (by omega))
  split at member
  · simp only [List.mem_cons, List.not_mem_nil, or_false] at member
    rcases member with rfl | rfl | rfl
    all_goals exact absurd ascii (high _ _ (by omega) (by omega))
  · simp only [List.mem_cons, List.not_mem_nil, or_false] at member
    rcases member with rfl | rfl | rfl | rfl
    all_goals exact absurd ascii (high _ _ (by omega) (by omega))

/-- Between two bytes, the second of which does not continue a character, a text can be split. -/
theorem split_of_not_isContinuation {cs : List Char} {i : Nat}
    (inside : i < (cs.flatMap String.utf8EncodeChar).length)
    (starts : ∀ b ∈ (cs.flatMap String.utf8EncodeChar)[i]?, Source.isContinuation b = false) :
    ∃ l r, cs = l ++ r ∧ (l.flatMap String.utf8EncodeChar).length = i := by
  induction cs generalizing i with
  | nil => cases inside
  | cons c cs ih =>
    rw [List.flatMap_cons] at inside starts
    by_cases later : (String.utf8EncodeChar c).length ≤ i
    · rw [List.getElem?_append_right later] at starts
      rw [List.length_append] at inside
      obtain ⟨l, r, split, length⟩ := ih (by omega) starts
      refine ⟨c :: l, r, by rw [split, List.cons_append], ?_⟩
      rw [List.flatMap_cons, List.length_append, length]
      omega
    · cases i with
      | zero => exact ⟨[], c :: cs, rfl, rfl⟩
      | succ i =>
        have bound : i + 1 < (String.utf8EncodeChar c).length := by omega
        rw [List.getElem?_append_left bound, List.getElem?_eq_getElem bound] at starts
        have continues := isContinuation_of_mem_tail (c := c)
          (List.mem_of_getElem? (i := i) (by rw [List.getElem?_tail, List.getElem?_eq_getElem bound]))
        rw [starts _ rfl] at continues
        cases continues

theorem length_flatMap (cs : List Char) :
    (cs.flatMap String.utf8EncodeChar).length = String.utf8Len cs := by
  induction cs with
  | nil => rfl
  | cons c cs ih =>
    rw [List.flatMap_cons, List.length_append, ih, String.length_utf8EncodeChar,
      String.utf8Len_cons, Nat.add_comm]

/-- Of two fronts of a text the one with fewer bytes is a front of the other. -/
theorem exists_append_of_le {l r front back : List Char} (same : l ++ r = front ++ back)
    (shorter : (l.flatMap String.utf8EncodeChar).length ≤
      (front.flatMap String.utf8EncodeChar).length) :
    ∃ middle, front = l ++ middle ∧ r = middle ++ back := by
  rcases List.append_eq_append_iff.mp same with ⟨middle, longer, rest⟩ | ⟨middle, longer, rest⟩
  · exact ⟨middle, longer, rest⟩
  · rw [longer, List.flatMap_append, List.length_append] at shorter
    obtain rfl : middle = [] := by
      rw [← String.utf8Len_eq_zero, ← length_flatMap]
      omega
    exact ⟨[], by rw [longer, List.append_nil, List.append_nil], by rw [rest]; rfl⟩

end Utf8

namespace Source

theorem size_eq (s : Source) : s.size = s.bytes.length := by
  rw [size, ← String.size_toByteArray, ← String.utf8Encode_toList, List.utf8Encode,
    List.size_toByteArray, bytes]

theorem byte?_eq (s : Source) (i : Nat) : s.byte? i = s.bytes[i]? := by
  by_cases inside : i < s.text.utf8ByteSize
  · rw [byte?, dif_pos inside, List.getElem?_eq_getElem (by rw [← size_eq]; exact inside),
      String.getUTF8Byte]
    congr 1
    simp only [← String.utf8Encode_toList, List.utf8Encode, List.getElem_toByteArray, bytes]
  · rw [byte?, dif_neg inside, List.getElem?_eq_none]
    rw [← size_eq]
    exact Nat.not_lt.mp inside

theorem split_of_isBoundary {s : Source} {i : Nat} (boundary : s.isBoundary i = true) :
    ∃ l r, s.text.toList = l ++ r ∧ (l.flatMap String.utf8EncodeChar).length = i := by
  unfold isBoundary at boundary
  rw [byte?_eq] at boundary
  split at boundary
  · rename_i b here
    obtain ⟨inside, _⟩ := List.getElem?_eq_some_iff.mp here
    refine Utf8.split_of_not_isContinuation inside ?_
    intro b' same
    rw [bytes] at here
    rw [Option.mem_def.mp same] at here
    rw [Option.some.inj here]
    simpa using boundary
  · refine ⟨s.text.toList, [], by rw [List.append_nil], ?_⟩
    rw [← bytes, ← size_eq]
    exact (beq_iff_eq.mp boundary).symm

/-- A slice has the bytes between its ends. -/
theorem bytes_of_slice? {s : Source} {start stop : Nat} {t : String}
    (sliced : s.slice? start stop = some t) :
    start ≤ stop ∧ stop ≤ s.size ∧ (Source.mk t).bytes = (s.bytes.take stop).drop start := by
  unfold slice? at sliced
  split at sliced
  · rename_i valid
    simp only [Bool.and_eq_true, decide_eq_true_eq] at valid
    obtain ⟨⟨⟨order, bound⟩, low⟩, high⟩ := valid
    refine ⟨order, bound, ?_⟩
    obtain ⟨l, r, split, rfl⟩ := split_of_isBoundary low
    obtain ⟨l', r', split', rfl⟩ := split_of_isBoundary high
    -- The front part of the second split goes on where that of the first ends.
    obtain ⟨m, rfl, _⟩ := Utf8.exists_append_of_le (split.symm.trans split') order
    have text : s.text = String.ofList (l ++ m ++ r') := by rw [← split', String.ofList_toList]
    have whole : s.bytes = (l ++ m).flatMap String.utf8EncodeChar ++
        r'.flatMap String.utf8EncodeChar := by rw [bytes, split', List.flatMap_append]
    rw [text, List.flatMap_append, List.length_append, Utf8.length_flatMap l, Utf8.length_flatMap m,
      String.extract_of_valid, Option.some.injEq] at sliced
    rw [← sliced, whole, List.take_left, List.flatMap_append, List.drop_left, bytes, String.toList_ofList]
  · cases sliced

theorem size_slice_le (s : Source) (span : Span) : (s.slice span).utf8ByteSize ≤ span.width := by
  unfold slice
  cases sliced : s.slice? span.start span.stop with
  | none => exact Nat.zero_le _
  | some t =>
    obtain ⟨_, _, same⟩ := bytes_of_slice? sliced
    have length := (Source.mk t).size_eq
    rw [same, List.length_drop, List.length_take] at length
    rw [Option.getD_some, Span.width]
    unfold size at length
    dsimp only at length
    omega

theorem exists_mem_of_byte? {s : Source} {i : Nat} {b : UInt8} (here : s.byte? i = some b)
    (ascii : b.toNat < 128) : ∃ c ∈ s.text.toList, c.toNat = b.toNat := by
  rw [byte?_eq] at here
  obtain ⟨c, member, byte⟩ := List.mem_flatMap.mp (List.mem_of_getElem? here)
  exact ⟨c, member, Utf8.toNat_of_mem_of_lt byte ascii⟩

end Source

end JsxCheck
