import JsxCheck.Proofs.Fix.Order

/-!
Fixes in ascending order, put in place side by side.

Making fixes one after the other moves the ones that are left. `applyAll_of_ascending` says what the text
is in the end: what stands between two fixes is kept, and every fix stands where its span was. Fixes of a
part of a text change that part only (`splice_shift`).
-/
namespace JsxCheck.Fix

/-- The text from an offset on with fixes, given in ascending order, in the places of their spans. -/
def splice (text : List UInt8) : (offset : Nat) → List Fix → List UInt8
  | offset, [] => text.drop offset
  | offset, f :: fixes =>
    (text.take f.span.start).drop offset ++ f.bytes ++ splice text f.span.stop fixes

/-- A fix of a part of a text as a fix of the whole, given how much stands in front of the part. -/
def shift (offset : Nat) (f : Fix) : Fix :=
  { f with span := ⟨offset + f.span.start, offset + f.span.stop⟩ }

variable {fixes : List Fix} {text : List UInt8} {offset : Nat}

/-- What is in front of all fixes is kept. -/
theorem splice_eq_append (inFront : ∀ f ∈ fixes, offset ≤ f.span.start)
    (fit : ∀ f ∈ fixes, f.Fits text) :
    splice text 0 fixes = text.take offset ++ splice text offset fixes := by
  cases fixes with
  | nil => rw [splice, splice, List.drop_zero, List.take_append_drop]
  | cons f fixes =>
    have first := inFront f List.mem_cons_self
    have front : (text.take f.span.start).take offset = text.take offset := by
      rw [List.take_take, Nat.min_eq_left first]
    rw [splice, splice, List.drop_zero, ← front, ← List.append_assoc, ← List.append_assoc,
      List.take_append_drop]

theorem apply_take_append {f : Fix} (fits : f.Fits text) (rest : List UInt8) :
    f.apply (text.take f.span.stop ++ rest) = text.take f.span.start ++ f.bytes ++ rest := by
  obtain ⟨order, bound⟩ := fits
  have length : (text.take f.span.stop).length = f.span.stop := List.length_take_of_le bound
  rw [apply, List.take_append_of_le_length (by rw [length]; exact order), List.take_take,
    Nat.min_eq_left order, List.drop_left' length]

/-- From the last fix to the first, each leaves what is behind it spliced. -/
theorem foldr_apply_eq_splice (ascending : fixes.Pairwise Before) (fit : ∀ f ∈ fixes, f.Fits text) :
    fixes.foldr apply text = splice text 0 fixes := by
  induction fixes with
  | nil => rfl
  | cons f fixes ih =>
    obtain ⟨first, ascending⟩ := List.pairwise_cons.mp ascending
    have later : ∀ g ∈ fixes, g.Fits text := fun g member => fit g (List.mem_cons_of_mem _ member)
    rw [List.foldr_cons, ih ascending later,
      splice_eq_append (fun g member => (first g member).1) later,
      apply_take_append (fit f List.mem_cons_self)]
    rfl

theorem applyAll_of_ascending (ascending : fixes.Pairwise Before) (fit : ∀ f ∈ fixes, f.Fits text) :
    applyAll fixes text = splice text 0 fixes := by
  have clear : fixes.Pairwise Clear := ascending.imp Or.inl
  have descending : fixes.reverse.Pairwise fun f g => g.Before f := List.pairwise_reverse.mpr ascending
  rw [applyAll_perm fixes.reverse_perm.symm clear fit, applyAll_of_descending descending,
    List.foldl_reverse, foldr_apply_eq_splice ascending fit]

/-! ### Fixes of a part -/

theorem Before.shift {f g : Fix} (before : f.Before g) : (f.shift offset).Before (g.shift offset) :=
  ⟨Nat.add_le_add_left before.1 _, Nat.add_lt_add_left before.2 _⟩

theorem Fits.shift {f : Fix} {front back : List UInt8} (fits : f.Fits text) :
    (f.shift front.length).Fits (front ++ text ++ back) := by
  obtain ⟨order, bound⟩ := fits
  refine ⟨Nat.add_le_add_left order _, ?_⟩
  rw [List.length_append, List.length_append]
  change front.length + f.span.stop ≤ _
  omega

theorem splice_shift {front back : List UInt8} (fit : ∀ f ∈ fixes, f.Fits text)
    (inside : offset ≤ text.length) :
    splice (front ++ text ++ back) (front.length + offset) (fixes.map (shift front.length)) =
      splice text offset fixes ++ back := by
  induction fixes generalizing offset with
  | nil =>
    rw [List.map_nil, splice, splice, List.append_assoc, List.drop_append, List.drop_append]
    simp [Nat.sub_eq_zero_of_le inside]
  | cons f fixes ih =>
    obtain ⟨order, bound⟩ := fit f List.mem_cons_self
    have part : ((front ++ text ++ back).take (front.length + f.span.start)).drop
        (front.length + offset) = (text.take f.span.start).drop offset := by
      rw [List.append_assoc, List.take_length_add_append,
        List.take_append_of_le_length (Nat.le_trans order bound), List.drop_length_add_append]
    have rest := ih (fun g member => fit g (List.mem_cons_of_mem _ member)) bound
    rw [List.map_cons, splice, splice]
    change ((front ++ text ++ back).take (front.length + f.span.start)).drop (front.length + offset) ++
      f.bytes ++ splice (front ++ text ++ back) (front.length + f.span.stop) _ = _
    rw [part, rest, ← List.append_assoc]

/-- Ascending fixes of a part of a text leave what is around the part alone. -/
theorem applyAll_shift {front back : List UInt8} (ascending : fixes.Pairwise Before)
    (fit : ∀ f ∈ fixes, f.Fits text) :
    applyAll (fixes.map (shift front.length)) (front ++ text ++ back) =
      front ++ applyAll fixes text ++ back := by
  have ascending' : (fixes.map (shift front.length)).Pairwise Before :=
    List.pairwise_map.mpr (ascending.imp Before.shift)
  have fit' : ∀ f ∈ fixes.map (shift front.length), f.Fits (front ++ text ++ back) := by
    intro f member
    obtain ⟨g, listed, rfl⟩ := List.mem_map.mp member
    exact (fit g listed).shift
  have behind : ∀ f ∈ fixes.map (shift front.length), front.length ≤ f.span.start := by
    intro f member
    obtain ⟨g, _, rfl⟩ := List.mem_map.mp member
    exact Nat.le_add_right _ _
  have part : splice (front ++ text ++ back) front.length (fixes.map (shift front.length)) =
      splice text 0 fixes ++ back := splice_shift fit (Nat.zero_le _)
  rw [applyAll_of_ascending ascending' fit', splice_eq_append behind fit', part,
    applyAll_of_ascending ascending fit, List.append_assoc front, List.take_left,
    List.append_assoc front]

end JsxCheck.Fix
