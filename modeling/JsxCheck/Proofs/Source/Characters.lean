import JsxCheck.Proofs.Source.Boundaries

/-!
The characters on either side of an offset.

A character stands at an offset just when the text falls into what is in front of the offset, the
character, and what is behind it. One byte beside an offset can be cut out of the text exactly when
the character there has no more than that byte.
-/
namespace JsxCheck.Source

variable {s : Source} {i : Nat} {c : Char}

theorem isBoundary_of_split {l r : List Char} (split : s.text.toList = l ++ r) :
    s.isBoundary (String.utf8Len l) = true :=
  (s.isBoundary_iff _).mpr ⟨l, r, split, Utf8.length_flatMap l⟩

theorem exists_split_of_isBoundary (boundary : s.isBoundary i = true) :
    ∃ l r, s.text.toList = l ++ r ∧ String.utf8Len l = i := by
  obtain ⟨l, r, split, length⟩ := split_of_isBoundary boundary
  exact ⟨l, r, split, by rw [← Utf8.length_flatMap, length]⟩

theorem size_eq_utf8Len (s : Source) : s.size = String.utf8Len s.text.toList :=
  (String.utf8Len_toList s.text).symm

theorem char?_of_split {l r : List Char} (split : s.text.toList = l ++ c :: r) :
    s.char? (String.utf8Len l) = some c := by
  have inside : String.utf8Len l < s.size := by
    have positive := c.utf8Size_pos
    rw [size_eq_utf8Len, split, String.utf8Len_append, String.utf8Len_cons]
    omega
  have text : s.text = String.ofList (l ++ c :: r) := by rw [← split, String.ofList_toList]
  rw [char?, isBoundary_of_split split, if_pos (by simpa using inside), text, String.get_of_valid]
  rfl

theorem char?_eq_some_iff :
    s.char? i = some c ↔ ∃ l r, s.text.toList = l ++ c :: r ∧ String.utf8Len l = i := by
  constructor
  · intro here
    have valid : (s.isBoundary i && decide (i < s.size)) = true := by
      unfold char? at here
      split at here
      · assumption
      · cases here
    rw [Bool.and_eq_true, decide_eq_true_eq] at valid
    obtain ⟨l, r, split, rfl⟩ := exists_split_of_isBoundary valid.1
    cases r with
    | nil =>
      rw [size_eq_utf8Len, split, List.append_nil] at valid
      exact absurd valid.2 (Nat.lt_irrefl _)
    | cons c' r =>
      obtain rfl : c' = c := Option.some.inj ((char?_of_split split).symm.trans here)
      exact ⟨l, r, split, rfl⟩
  · rintro ⟨l, r, split, rfl⟩
    exact char?_of_split split

theorem char?_of_end {l : List Char} (whole : s.text.toList = l) :
    s.char? (String.utf8Len l) = none := by
  rw [char?, if_neg]
  rw [size_eq_utf8Len, whole]
  simp

/-- A cut behind the front of a text is a cut of the rest. -/
theorem exists_split_after {l r : List Char} (split : s.text.toList = l ++ r)
    (boundary : s.isBoundary i = true) (after : String.utf8Len l ≤ i) :
    ∃ middle back, r = middle ++ back ∧ String.utf8Len (l ++ middle) = i := by
  obtain ⟨front, back, split', rfl⟩ := exists_split_of_isBoundary boundary
  obtain ⟨middle, rfl, rest⟩ := Utf8.exists_append_of_le (split.symm.trans split') (by
    rw [Utf8.length_flatMap, Utf8.length_flatMap]
    exact after)
  exact ⟨middle, back, rest, rfl⟩

theorem exists_char? (boundary : s.isBoundary i = true) (inside : i < s.size) :
    ∃ c, s.char? i = some c :=
  ⟨String.Pos.Raw.get s.text ⟨i⟩, by rw [char?, boundary, if_pos (by simpa using inside)]⟩

theorem isBoundary_of_char? (here : s.char? i = some c) : s.isBoundary i = true := by
  obtain ⟨l, r, split, rfl⟩ := char?_eq_some_iff.mp here
  exact isBoundary_of_split split

theorem isBoundary_add_utf8Size (here : s.char? i = some c) :
    s.isBoundary (i + c.utf8Size) = true := by
  obtain ⟨l, r, split, rfl⟩ := char?_eq_some_iff.mp here
  have behind := isBoundary_of_split (s := s) (l := l ++ [c]) (r := r) (by rw [split]; simp)
  rwa [String.utf8Len_append, String.utf8Len_cons, String.utf8Len_nil, Nat.zero_add] at behind

/-- A character reaches up to the next offset where the text can be cut. -/
theorem add_utf8Size_le {j : Nat} (here : s.char? i = some c) (boundary : s.isBoundary j = true)
    (after : i < j) : i + c.utf8Size ≤ j := by
  obtain ⟨l, r, split, rfl⟩ := char?_eq_some_iff.mp here
  obtain ⟨middle, back, rest, rfl⟩ := exists_split_after split boundary (Nat.le_of_lt after)
  rw [String.utf8Len_append] at after ⊢
  cases middle with
  | nil => simp at after
  | cons first middle =>
    obtain ⟨rfl, _⟩ := List.cons.inj rest
    rw [String.utf8Len_cons]
    omega

theorem isBoundary_succ_iff (here : s.char? i = some c) :
    s.isBoundary (i + 1) = true ↔ c.utf8Size = 1 := by
  have positive := c.utf8Size_pos
  constructor
  · intro boundary
    have reach := add_utf8Size_le here boundary (Nat.lt_succ_self i)
    omega
  · intro single
    rw [← single]
    exact isBoundary_add_utf8Size here

/-- In front of an offset stands a character that reaches up to it. -/
theorem exists_charBefore? (boundary : s.isBoundary i = true) (positive : 0 < i) :
    ∃ c j, s.charBefore? i = some c ∧ s.char? j = some c ∧ j + c.utf8Size = i := by
  obtain ⟨l, r, split, rfl⟩ := exists_split_of_isBoundary boundary
  obtain ⟨front, last, rfl⟩ : ∃ front last, l = front ++ [last] := by
    rcases List.eq_nil_or_concat l with rfl | ⟨front, last, rfl⟩
    · cases positive
    · exact ⟨front, last, List.concat_eq_append⟩
  have here : s.char? (String.utf8Len front) = some last :=
    char?_of_split (by rw [split, List.append_assoc]; rfl)
  have ends : String.utf8Len front + last.utf8Size = String.utf8Len (front ++ [last]) := by
    rw [String.utf8Len_append, String.utf8Len_cons, String.utf8Len_nil, Nat.zero_add]
  have width : last.utf8Size = 1 ∨ last.utf8Size = 2 ∨ last.utf8Size = 3 ∨ last.utf8Size = 4 := by
    have low := last.utf8Size_pos
    have high := last.utf8Size_le_four
    omega
  refine ⟨last, _, ?_, here, ends⟩
  rw [charBefore?, if_pos boundary, List.findSome?_eq_some_iff]
  refine ⟨List.range (last.utf8Size - 1), last.utf8Size - 1,
    List.range' last.utf8Size (4 - last.utf8Size), ?_, ?_, ?_⟩
  · rcases width with width | width | width | width <;> rw [width] <;> rfl
  · rw [if_pos (by omega), ← here]
    congr 1
    omega
  · intro back near
    have less := List.mem_range.mp near
    rw [if_pos (by omega)]
    -- No character begins inside the last one.
    cases inside : s.char? (String.utf8Len (front ++ [last]) - 1 - back) with
    | none => rfl
    | some c =>
      have reach := add_utf8Size_le here (isBoundary_of_char? inside) (by omega)
      omega

theorem isBoundary_pred_iff (before : s.charBefore? i = some c) :
    0 < i ∧ (s.isBoundary (i - 1) = true ↔ c.utf8Size = 1) := by
  have boundary := isBoundary_of_charBefore? before
  have positive : 0 < i := by
    refine Nat.pos_of_ne_zero fun zero => ?_
    rw [charBefore?, if_pos boundary, zero] at before
    cases before
  obtain ⟨c', j, same, here, ends⟩ := exists_charBefore? boundary positive
  obtain rfl : c = c' := Option.some.inj (before.symm.trans same)
  refine ⟨positive, fun cut => ?_, fun single => ?_⟩
  · have size := c.utf8Size_pos
    by_contra wide
    have reach := add_utf8Size_le here cut (by omega)
    omega
  · rw [← ends, single, Nat.add_sub_cancel]
    exact isBoundary_of_char? here

/-- The byte behind an offset can be cut out when the character there has no other. -/
theorem sliceable_behind_iff (here : s.char? i = some c) :
    s.Sliceable ⟨i, i + 1⟩ ↔ c.utf8Size = 1 := by
  rw [← isBoundary_succ_iff here]
  exact ⟨fun sliceable => sliceable.stops,
    fun cut => ⟨Nat.le_succ i, isBoundary_of_char? here, cut⟩⟩

/-- The byte in front of an offset can be cut out when the character there has no other. -/
theorem sliceable_before_iff (before : s.charBefore? i = some c) :
    s.Sliceable ⟨i - 1, i⟩ ↔ c.utf8Size = 1 := by
  rw [← (isBoundary_pred_iff before).2]
  exact ⟨fun sliceable => sliceable.starts,
    fun cut => ⟨Nat.sub_le i 1, cut, isBoundary_of_charBefore? before⟩⟩

/-- At an offset stands the first byte of the character there. -/
theorem byte?_of_char? (here : s.char? i = some c) :
    s.byte? i = (String.utf8EncodeChar c).head? := by
  obtain ⟨l, r, split, rfl⟩ := char?_eq_some_iff.mp here
  obtain ⟨first, rest, form⟩ := Utf8.exists_encode_eq_cons c
  rw [byte?_eq, bytes, split, List.flatMap_append,
    List.getElem?_append_right (by rw [Utf8.length_flatMap]), Utf8.length_flatMap, Nat.sub_self,
    List.flatMap_cons, form]
  rfl

theorem lt_size_of_byte? {b : UInt8} (here : s.byte? i = some b) : i < s.size := by
  rw [byte?_eq] at here
  rw [size_eq]
  exact (List.getElem?_eq_some_iff.mp here).1

/-- A byte below 128 is the character at its offset. -/
theorem char?_of_byte? {b : UInt8} (here : s.byte? i = some b) (ascii : b.toNat < 128) :
    ∃ c, s.char? i = some c ∧ c.toNat = b.toNat ∧ c.utf8Size = 1 := by
  obtain ⟨starts, stops⟩ := isBoundary_of_byte? here ascii
  obtain ⟨c, found⟩ := exists_char? starts (lt_size_of_byte? here)
  refine ⟨c, found, ?_, (isBoundary_succ_iff found).mp stops⟩
  rw [byte?_of_char? found] at here
  exact Utf8.toNat_of_mem_of_lt (List.mem_of_mem_head? here) ascii

theorem char?_eq_of_byte? {b : UInt8} (here : s.byte? i = some b) (code : c.toNat = b.toNat)
    (ascii : b.toNat < 128) : s.char? i = some c := by
  obtain ⟨x, found, same, _⟩ := char?_of_byte? here ascii
  rw [found, Char.toNat_inj.mp (same.trans code.symm)]

end JsxCheck.Source
