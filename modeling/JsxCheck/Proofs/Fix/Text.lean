import JsxCheck.Proofs.Fix.Order
import JsxCheck.Proofs.Source.Boundaries

/-!
The text that fixes leave behind.

A fix that splits no character leaves a text again. A text can then still be cut wherever it could be
cut before, outside of the fix, so the fixes that are clear of the first one split no character either.
`exists_text_applyAll` says that all of them together leave a text.
-/
namespace JsxCheck

namespace Fix

theorem fits_of_sliceable {f : Fix} {s : Source} (sliceable : s.Sliceable f.span) :
    f.Fits s.bytes := by
  refine ⟨sliceable.ordered, ?_⟩
  rw [← Source.size_eq]
  exact sliceable.bounded

/-- A text is another one with a fix made in it. -/
def Made (f : Fix) (s t : Source) : Prop :=
  ∃ front middle back : List Char, s.text.toList = front ++ middle ++ back ∧
    t.text.toList = front ++ f.replacement.toList ++ back ∧ String.utf8Len front = f.span.start ∧
      String.utf8Len front + String.utf8Len middle = f.span.stop

theorem length_bytes (f : Fix) : f.bytes.length = String.utf8Len f.replacement.toList :=
  Utf8.length_flatMap _

theorem exists_made {f : Fix} {s : Source} (sliceable : s.Sliceable f.span) : ∃ t, f.Made s t := by
  obtain ⟨front, middle, back, split, start, stop, _⟩ := sliceable.exists_split
  exact ⟨⟨String.ofList (front ++ f.replacement.toList ++ back)⟩, front, middle, back, split,
    String.toList_ofList, start, stop⟩

namespace Made

variable {f : Fix} {s t : Source} {span : Span} (made : f.Made s t)

include made

theorem exists_bytes : ∃ front middle back : List UInt8, s.bytes = front ++ middle ++ back ∧
    t.bytes = front ++ f.bytes ++ back ∧ front.length = f.span.start ∧
      front.length + middle.length = f.span.stop := by
  obtain ⟨front, middle, back, split, text, start, stop⟩ := made
  refine ⟨front.flatMap String.utf8EncodeChar, middle.flatMap String.utf8EncodeChar,
    back.flatMap String.utf8EncodeChar, ?_, ?_, ?_, ?_⟩
  · rw [Source.bytes, split, List.flatMap_append, List.flatMap_append]
  · rw [Source.bytes, text, List.flatMap_append, List.flatMap_append]
    rfl
  · rw [Utf8.length_flatMap, start]
  · rw [Utf8.length_flatMap, Utf8.length_flatMap, stop]

theorem bytes_eq : t.bytes = f.apply s.bytes := by
  obtain ⟨front, middle, back, whole, text, start, stop⟩ := made.exists_bytes
  rw [whole, apply_append start.symm stop.symm, text]

theorem byte?_inFront {i : Nat} (before : i < f.span.start) : t.byte? i = s.byte? i := by
  obtain ⟨front, middle, back, whole, text, start, _⟩ := made.exists_bytes
  rw [← start] at before
  rw [Source.byte?_eq, Source.byte?_eq, whole, text, List.append_assoc, List.append_assoc,
    List.getElem?_append_left before, List.getElem?_append_left before]

theorem byte?_under {k : Nat} (inside : k < f.bytes.length) :
    t.byte? (f.span.start + k) = f.bytes[k]? := by
  obtain ⟨front, middle, back, _, text, start, _⟩ := made.exists_bytes
  rw [Source.byte?_eq, text, List.append_assoc, ← start,
    List.getElem?_append_right (Nat.le_add_right _ _), Nat.add_sub_cancel_left,
    List.getElem?_append_left inside]

theorem byte?_behind {i : Nat} (after : f.span.stop ≤ i) :
    t.byte? (i + f.bytes.length - f.width) = s.byte? i := by
  obtain ⟨front, middle, back, whole, text, start, stop⟩ := made.exists_bytes
  have width : f.width = middle.length := by
    rw [Fix.width, Span.width]
    omega
  rw [Source.byte?_eq, Source.byte?_eq, whole, text, width,
    List.getElem?_append_right (by rw [List.length_append]; omega),
    List.getElem?_append_right (by rw [List.length_append]; omega),
    List.length_append, List.length_append]
  congr 1
  omega

/-- What is in front of a fix stays. -/
theorem slice?_inFront (sliceable : s.Sliceable span) (before : span.stop ≤ f.span.start) :
    t.slice? span.start span.stop = s.slice? span.start span.stop := by
  obtain ⟨front, middle, back, split, text, start, _⟩ := made
  obtain ⟨l, m, r, cut, low, high, slice⟩ := sliceable.exists_split
  have same : (l ++ m) ++ r = front ++ (middle ++ back) := by
    rw [← cut, split, List.append_assoc]
  obtain ⟨rest, rfl, _⟩ := Utf8.exists_append_of_le same (by
    rw [Utf8.length_flatMap, Utf8.length_flatMap, String.utf8Len_append, high, start]
    exact before)
  have found : t.text.toList = l ++ m ++ (rest ++ f.replacement.toList ++ back) := by
    rw [text]
    simp only [List.append_assoc]
  rw [slice, ← high, ← low]
  exact Source.slice?_of_split found

/-- What is behind a fix moves by as much as the text grows or shrinks. -/
theorem slice?_behind (sliceable : s.Sliceable span) (after : f.span.stop ≤ span.start) :
    t.slice? (span.start + f.bytes.length - f.width) (span.stop + f.bytes.length - f.width) =
      s.slice? span.start span.stop := by
  obtain ⟨front, middle, back, split, text, start, stop⟩ := made
  obtain ⟨l, m, r, cut, low, high, slice⟩ := sliceable.exists_split
  have same : (front ++ middle) ++ back = l ++ (m ++ r) := by
    rw [← split, cut, List.append_assoc]
  obtain ⟨rest, rfl, rfl⟩ := Utf8.exists_append_of_le same (by
    rw [Utf8.length_flatMap, Utf8.length_flatMap, String.utf8Len_append, stop, low]
    exact after)
  have found : t.text.toList = (front ++ f.replacement.toList ++ rest) ++ m ++ r := by
    rw [text]
    simp only [List.append_assoc]
  have moved : String.utf8Len (front ++ f.replacement.toList ++ rest) =
      span.start + f.bytes.length - f.width := by
    rw [f.length_bytes, width, Span.width]
    simp only [String.utf8Len_append] at low ⊢
    omega
  have ends : String.utf8Len (front ++ f.replacement.toList ++ rest) + String.utf8Len m =
      span.stop + f.bytes.length - f.width := by
    rw [f.length_bytes, width, Span.width]
    simp only [String.utf8Len_append] at high ⊢
    omega
  rw [slice, ← moved, ← ends]
  exact Source.slice?_of_split found

theorem sliceable_inFront (sliceable : s.Sliceable span) (before : span.stop ≤ f.span.start) :
    t.Sliceable span := by
  rw [Source.sliceable_iff, made.slice?_inFront sliceable before, ← Source.sliceable_iff]
  exact sliceable

theorem sliceable_behind (sliceable : s.Sliceable span) (after : f.span.stop ≤ span.start) :
    t.Sliceable ⟨span.start + f.bytes.length - f.width, span.stop + f.bytes.length - f.width⟩ := by
  rw [Source.sliceable_iff, made.slice?_behind sliceable after, ← Source.sliceable_iff]
  exact sliceable

theorem isBoundary_inFront {i : Nat} (boundary : s.isBoundary i = true) (before : i ≤ f.span.start) :
    t.isBoundary i = true :=
  (made.sliceable_inFront (Source.sliceable_point boundary) before).starts

theorem isBoundary_behind {i : Nat} (boundary : s.isBoundary i = true) (after : f.span.stop ≤ i) :
    t.isBoundary (i + f.bytes.length - f.width) = true :=
  (made.sliceable_behind (Source.sliceable_point boundary) after).starts

end Made

/-- A fix that splits no character leaves a text, in which fixes that are clear of it split none. -/
theorem exists_text_apply {f : Fix} {s : Source} (sliceable : s.Sliceable f.span) :
    ∃ t : Source, t.bytes = f.apply s.bytes ∧
      ∀ g, f.Clear g → s.Sliceable g.span → t.Sliceable (f.moved g).span := by
  obtain ⟨t, made⟩ := exists_made sliceable
  refine ⟨t, made.bytes_eq, ?_⟩
  rintro g (before | after) free
  · rw [moved_of_before before]
    exact made.sliceable_behind free before.1
  · rw [moved_of_after after]
    exact made.sliceable_inFront free after.1

/-- Fixes that split no characters and are clear of each other leave a text. -/
theorem exists_text_applyAll {fixes : List Fix} {s : Source} (clear : fixes.Pairwise Clear)
    (sliceable : ∀ f ∈ fixes, s.Sliceable f.span) :
    ∃ t : Source, t.bytes = applyAll fixes s.bytes := by
  -- In the induction the fixes have been moved by those made before them.
  induction count : fixes.length generalizing fixes s with
  | zero =>
    obtain rfl := List.length_eq_zero_iff.mp count
    exact ⟨s, by rw [applyAll]⟩
  | succ n ih =>
    cases fixes with
    | nil => cases count
    | cons f fixes =>
      obtain ⟨t, made, moved⟩ := exists_text_apply (sliceable f List.mem_cons_self)
      obtain ⟨stillClear, _⟩ :=
        map_moved clear fun g member => fits_of_sliceable (sliceable g member)
      have stillSliceable : ∀ g ∈ fixes.map f.moved, t.Sliceable g.span := by
        intro g member
        obtain ⟨h, later, rfl⟩ := List.mem_map.mp member
        exact moved h ((List.pairwise_cons.mp clear).1 h later)
          (sliceable h (List.mem_cons_of_mem _ later))
      rw [applyAll_cons, ← made]
      exact ih stillClear stillSliceable (by rw [List.length_map]; exact Nat.succ.inj count)

end Fix

end JsxCheck
