import JsxCheck.Diagnostic
import JsxCheck.Proofs.Source.Bytes

/-!
Fixes that are made one after the other.

A fix that has been made moves the text behind it, so the fixes that are still to be made there move
along. `applyAll_perm` says that fixes that are clear of each other give one text, whichever is made
first, and `applyAll_of_descending` that from the last to the first none has to be moved.
-/
namespace JsxCheck

namespace Fix

/-- One fix ends before the other starts, and the two do not start at one offset. -/
def Before (f g : Fix) : Prop := f.span.stop ≤ g.span.start ∧ f.span.start < g.span.start

instance (f g : Fix) : Decidable (f.Before g) :=
  inferInstanceAs (Decidable (f.span.stop ≤ g.span.start ∧ f.span.start < g.span.start))

/-- One of two fixes is before the other. -/
def Clear (f g : Fix) : Prop := f.Before g ∨ g.Before f

theorem Clear.symm {f g : Fix} (clear : f.Clear g) : g.Clear f := Or.symm clear

/-- The span of a fix lies in a text. -/
def Fits (f : Fix) (text : List UInt8) : Prop :=
  f.span.start ≤ f.span.stop ∧ f.span.stop ≤ text.length

/-- The bytes that a fix puts in place. -/
def bytes (f : Fix) : List UInt8 := (Source.mk f.replacement).bytes

/-- The text with one fix made. -/
def apply (f : Fix) (text : List UInt8) : List UInt8 :=
  text.take f.span.start ++ f.bytes ++ text.drop f.span.stop

/-- A fix as it is to be made once another one has been made. -/
def moved (done f : Fix) : Fix :=
  if done.Before f then
    { f with span :=
        ⟨f.span.start + done.bytes.length - done.width, f.span.stop + done.bytes.length - done.width⟩ }
  else f

def applyAll : List Fix → List UInt8 → List UInt8
  | [], text => text
  | f :: fixes, text => applyAll (fixes.map f.moved) (f.apply text)
termination_by fixes => fixes.length
decreasing_by simp

theorem moved_of_before {f g : Fix} (before : f.Before g) :
    f.moved g = { g with span :=
      ⟨g.span.start + f.bytes.length - f.width, g.span.stop + f.bytes.length - f.width⟩ } :=
  if_pos before

theorem moved_of_after {f g : Fix} (after : g.Before f) : f.moved g = g :=
  if_neg fun before => by
    obtain ⟨_, first⟩ := before
    obtain ⟨_, second⟩ := after
    omega

theorem bytes_moved (f g : Fix) : (f.moved g).bytes = g.bytes := by
  unfold moved
  split <;> rfl

theorem length_apply {f : Fix} {text : List UInt8} (fits : f.Fits text) :
    (f.apply text).length = text.length + f.bytes.length - f.width := by
  obtain ⟨order, bound⟩ := fits
  simp only [apply, List.length_append, List.length_take, List.length_drop, width, Span.width]
  omega

/-! ### One fix made, others moved -/

theorem Fits.moved {f g : Fix} {text : List UInt8} (done : f.Fits text) (fits : g.Fits text)
    (clear : f.Clear g) : (f.moved g).Fits (f.apply text) := by
  have length := length_apply done
  obtain ⟨order, bound⟩ := fits
  obtain ⟨order', bound'⟩ := done
  rcases clear with before | after
  · rw [moved_of_before before]
    obtain ⟨apart, _⟩ := before
    simp only [Fits, width, Span.width] at *
    omega
  · rw [moved_of_after after]
    obtain ⟨apart, _⟩ := after
    simp only [Fits, width, Span.width] at *
    omega

theorem Before.moved {f g h : Fix} (order : f.span.start ≤ f.span.stop) (before : g.Before h)
    (first : f.Clear g) (second : f.Clear h) : (f.moved g).Before (f.moved h) := by
  obtain ⟨apart, start⟩ := before
  rcases first with beforeG | afterG
  · rcases second with beforeH | afterH
    · rw [moved_of_before beforeG, moved_of_before beforeH]
      obtain ⟨apartG, startG⟩ := beforeG
      obtain ⟨apartH, startH⟩ := beforeH
      simp only [Before, width, Span.width] at *
      omega
    · obtain ⟨apartG, startG⟩ := beforeG
      obtain ⟨apartH, startH⟩ := afterH
      omega
  · rcases second with beforeH | afterH
    · rw [moved_of_after afterG, moved_of_before beforeH]
      obtain ⟨apartG, startG⟩ := afterG
      obtain ⟨apartH, startH⟩ := beforeH
      simp only [Before, width, Span.width] at *
      omega
    · rw [moved_of_after afterG, moved_of_after afterH]
      exact ⟨apart, start⟩

theorem Clear.moved {f g h : Fix} (order : f.span.start ≤ f.span.stop) (clear : g.Clear h)
    (first : f.Clear g) (second : f.Clear h) : (f.moved g).Clear (f.moved h) :=
  clear.imp (fun before => before.moved order first second)
    fun before => before.moved order second first

/-! ### Two fixes made in either order -/

theorem apply_append {f : Fix} {a b c : List UInt8} (start : f.span.start = a.length)
    (stop : f.span.stop = a.length + b.length) : f.apply (a ++ b ++ c) = a ++ f.bytes ++ c := by
  rw [apply, stop, ← List.length_append, List.drop_left, start, List.append_assoc a b c,
    List.take_left]

theorem exists_append (text : List UInt8) {i j : Nat} (order : i ≤ j) (bound : j ≤ text.length) :
    ∃ a b c, text = a ++ b ++ c ∧ a.length = i ∧ a.length + b.length = j := by
  refine ⟨text.take i, (text.take j).drop i, text.drop j, ?_, ?_, ?_⟩
  · have front : text.take i = (text.take j).take i := by rw [List.take_take, Nat.min_eq_left order]
    rw [front, List.take_append_drop, List.take_append_drop]
  · rw [List.length_take]
    omega
  · rw [List.length_take, List.length_drop, List.length_take]
    omega

theorem apply_comm {f g : Fix} {text : List UInt8} (before : f.Before g) (done : f.Fits text)
    (fits : g.Fits text) : (f.moved g).apply (f.apply text) = f.apply (g.apply text) := by
  obtain ⟨apart, _⟩ := before
  obtain ⟨a, b, rest, rfl, start, stop⟩ := exists_append text done.1 done.2
  have bound := fits.2
  rw [List.length_append, List.length_append] at bound
  obtain ⟨c, d, e, rfl, start', stop'⟩ := exists_append rest
    (i := g.span.start - f.span.stop) (j := g.span.stop - f.span.stop)
    (by have := fits.1; omega) (by omega)
  have order := fits.1
  rw [apply_append start.symm stop.symm, moved_of_before ⟨apart, ‹_›⟩]
  have first : a ++ f.bytes ++ (c ++ d ++ e) = a ++ f.bytes ++ c ++ d ++ e := by
    simp only [List.append_assoc]
  have second : a ++ b ++ (c ++ d ++ e) = a ++ b ++ c ++ d ++ e := by
    simp only [List.append_assoc]
  have third : a ++ b ++ c ++ g.bytes ++ e = a ++ b ++ (c ++ g.bytes ++ e) := by
    simp only [List.append_assoc]
  rw [first, second, apply_append, apply_append (f := g), third,
    apply_append start.symm stop.symm]
  · simp only [bytes, List.append_assoc]
  all_goals
    simp only [List.length_append, width, Span.width] at *
    omega

/-- A third fix moves to the same place, whichever of two others is made first. -/
theorem moved_comm {f g h : Fix} (before : f.Before g) (ordered : f.span.start ≤ f.span.stop)
    (ordered' : g.span.start ≤ g.span.stop) (ordered'' : h.span.start ≤ h.span.stop)
    (first : f.Clear h) (second : g.Clear h) :
    (f.moved g).moved (f.moved h) = f.moved (g.moved h) := by
  rcases second with gBefore | gAfter
  · -- The third fix comes last.
    have fBefore : f.Before h := ⟨by have := before.1; have := gBefore.1; omega,
      by have := before.2; have := gBefore.2; omega⟩
    have both : (f.moved g).Before (f.moved h) :=
      gBefore.moved ordered (Or.inl before) (Or.inl fBefore)
    have still : f.Before (g.moved h) := by
      rw [moved_of_before gBefore]
      obtain ⟨apart, start⟩ := before
      obtain ⟨apart', start'⟩ := gBefore
      simp only [Before, width, Span.width] at *
      omega
    rw [moved_of_before both, bytes_moved, moved_of_before still, moved_of_before before,
      moved_of_before fBefore, moved_of_before gBefore]
    obtain ⟨apart, _⟩ := before
    obtain ⟨apart', _⟩ := gBefore
    simp only [width, Span.width, Fix.mk.injEq, Span.mk.injEq, and_true]
    omega
  · -- The third fix comes before the second one, which cannot move it.
    have still : (f.moved h).Before (f.moved g) := gAfter.moved ordered first (Or.inl before)
    rw [moved_of_after still, moved_of_after gAfter]

/-! ### All fixes -/

theorem applyAll_cons (f : Fix) (fixes : List Fix) (text : List UInt8) :
    applyAll (f :: fixes) text = applyAll (fixes.map f.moved) (f.apply text) := by
  rw [applyAll]

theorem applyAll_swap_of_before {f g : Fix} {fixes : List Fix} {text : List UInt8}
    (before : f.Before g) (first : ∀ h ∈ fixes, f.Clear h) (second : ∀ h ∈ fixes, g.Clear h)
    (done : f.Fits text) (fits : g.Fits text) (fit : ∀ h ∈ fixes, h.Fits text) :
    applyAll (f :: g :: fixes) text = applyAll (g :: f :: fixes) text := by
  have same : (fixes.map f.moved).map (f.moved g).moved = (fixes.map g.moved).map f.moved := by
    rw [List.map_map, List.map_map]
    apply List.map_congr_left
    intro h member
    exact moved_comm before done.1 fits.1 (fit h member).1 (first h member) (second h member)
  rw [applyAll_cons, List.map_cons, applyAll_cons, applyAll_cons, List.map_cons, applyAll_cons,
    moved_of_after before, same, apply_comm before done fits]

theorem applyAll_swap {f g : Fix} {fixes : List Fix} {text : List UInt8}
    (clear : (f :: g :: fixes).Pairwise Clear) (fit : ∀ h ∈ f :: g :: fixes, h.Fits text) :
    applyAll (f :: g :: fixes) text = applyAll (g :: f :: fixes) text := by
  obtain ⟨first, clear⟩ := List.pairwise_cons.mp clear
  obtain ⟨second, _⟩ := List.pairwise_cons.mp clear
  have fitsF := fit f List.mem_cons_self
  have fitsG := fit g (List.mem_cons_of_mem _ List.mem_cons_self)
  have rest : ∀ h ∈ fixes, f.Clear h := fun h later => first h (List.mem_cons_of_mem _ later)
  have fit : ∀ h ∈ fixes, h.Fits text :=
    fun h later => fit h (List.mem_cons_of_mem _ (List.mem_cons_of_mem _ later))
  rcases first g List.mem_cons_self with before | after
  · exact applyAll_swap_of_before before rest second fitsF fitsG fit
  · exact (applyAll_swap_of_before after second rest fitsG fitsF fit).symm

/-- Making a fix keeps the others clear of each other and in the text. -/
theorem map_moved {f : Fix} {fixes : List Fix} {text : List UInt8}
    (clear : (f :: fixes).Pairwise Clear) (fit : ∀ h ∈ f :: fixes, h.Fits text) :
    (fixes.map f.moved).Pairwise Clear ∧ ∀ h ∈ fixes.map f.moved, h.Fits (f.apply text) := by
  obtain ⟨first, clear⟩ := List.pairwise_cons.mp clear
  have fits := fit f List.mem_cons_self
  refine ⟨List.pairwise_map.mpr ?_, ?_⟩
  · refine clear.imp_of_mem ?_
    intro g h memberG memberH clear
    exact clear.moved fits.1 (first g memberG) (first h memberH)
  · intro h member
    obtain ⟨g, memberG, rfl⟩ := List.mem_map.mp member
    exact Fits.moved fits (fit g (List.mem_cons_of_mem _ memberG)) (first g memberG)

/-- Fixes that are clear of each other give one text, whatever the order. -/
theorem applyAll_perm {fixes others : List Fix} (perm : fixes.Perm others) {text : List UInt8}
    (clear : fixes.Pairwise Clear) (fit : ∀ h ∈ fixes, h.Fits text) :
    applyAll fixes text = applyAll others text := by
  -- In the induction the fixes have been moved by those made before them.
  have general : ∀ (move : Fix → Fix) (text : List UInt8), (fixes.map move).Pairwise Clear →
      (∀ h ∈ fixes.map move, h.Fits text) →
        applyAll (fixes.map move) text = applyAll (others.map move) text := by
    clear clear fit text
    induction perm with
    | nil => intro _ _ _ _; rfl
    | cons f perm ih =>
      intro move text clear fit
      rw [List.map_cons] at clear fit
      obtain ⟨clear, fit⟩ := map_moved clear fit
      rw [List.map_map] at clear fit
      rw [List.map_cons, List.map_cons, applyAll_cons, applyAll_cons, List.map_map, List.map_map]
      exact ih _ _ clear fit
    | swap f g fixes =>
      intro move text clear fit
      exact applyAll_swap clear fit
    | trans first second ihFirst ihSecond =>
      intro move text clear fit
      rw [ihFirst move text clear fit]
      refine ihSecond move text (((first.map move).pairwise_iff Clear.symm).mp clear) ?_
      intro h member
      exact fit h ((first.map move).mem_iff.mpr member)
  have unmoved := general id text
  rw [List.map_id, List.map_id] at unmoved
  exact unmoved clear fit

/-- From the last fix to the first, each is made where it is. -/
theorem applyAll_of_descending {fixes : List Fix} (descending : fixes.Pairwise fun f g => g.Before f)
    (text : List UInt8) : applyAll fixes text = fixes.foldl (fun text f => f.apply text) text := by
  induction fixes generalizing text with
  | nil => rw [applyAll]; rfl
  | cons f fixes ih =>
    obtain ⟨first, descending⟩ := List.pairwise_cons.mp descending
    have still : fixes.map f.moved = fixes := by
      conv_rhs => rw [← List.map_id fixes]
      exact List.map_congr_left fun g later => moved_of_after (first g later)
    rw [applyAll_cons, still, ih descending, List.foldl_cons]

end Fix

end JsxCheck
