import JsxCheck.Report
import Mathlib.Data.List.Basic

/-!
The order of merged reports.

A report has one stable order by start (`IsSortOf.unique`), and it is the one that merging gives
(`sort_isSortOf`): nothing is lost or doubled, and what starts at one offset keeps its order.
-/
namespace JsxCheck

/-! ### Sorting by a number -/

section ByNumber

variable {α : Type} (key : α → Nat)

theorem decide_le_trans (a b c : α) (first : decide (key a ≤ key b) = true)
    (second : decide (key b ≤ key c) = true) : decide (key a ≤ key c) = true :=
  decide_eq_true (Nat.le_trans (of_decide_eq_true first) (of_decide_eq_true second))

theorem decide_le_total (a b : α) :
    (decide (key a ≤ key b) || decide (key b ≤ key a)) = true := by
  simpa using Nat.le_total (key a) (key b)

theorem pairwise_mergeSort_le (l : List α) :
    (l.mergeSort (key · ≤ key ·)).Pairwise fun a b => key a ≤ key b :=
  (List.pairwise_mergeSort (decide_le_trans key) (decide_le_total key) l).imp of_decide_eq_true

/-- What has one number keeps its order. -/
theorem filter_mergeSort (l : List α) (n : Nat) :
    (l.mergeSort (key · ≤ key ·)).filter (key · == n) = l.filter (key · == n) := by
  -- What has one number is in order already, so sorting keeps it as a sublist.
  have level : (l.filter (key · == n)).Pairwise fun a b => decide (key a ≤ key b) = true := by
    refine List.pairwise_of_forall_mem_list ?_
    intro a member b member'
    have here := beq_iff_eq.mp (List.mem_filter.mp member).2
    have there := beq_iff_eq.mp (List.mem_filter.mp member').2
    exact decide_eq_true (Nat.le_of_eq (here.trans there.symm))
  have kept := (List.sublist_mergeSort (decide_le_trans key) (decide_le_total key) level
    List.filter_sublist).filter (key · == n)
  simp only [List.filter_filter, Bool.and_self] at kept
  exact (kept.eq_of_length (((List.mergeSort_perm l _).filter _).length_eq.symm)).symm

/-- A list that is in some order is still in it, after sorting, where the numbers are equal. -/
theorem pairwise_mergeSort_of_pairwise {r : α → α → Prop} {l : List α} (ordered : l.Pairwise r) :
    (l.mergeSort (key · ≤ key ·)).Pairwise fun a b => key a < key b ∨ key a = key b ∧ r a b := by
  refine List.pairwise_of_forall_sublist fun {a b} pair => ?_
  have le := List.pairwise_iff_forall_sublist.mp (pairwise_mergeSort_le key l) pair
  rcases Nat.lt_or_eq_of_le le with less | same
  · exact Or.inl less
  · have level := pair.filter (key · == key b)
    rw [filter_mergeSort, List.filter_eq_self.mpr (by simp [same])] at level
    have original := level.trans List.filter_sublist
    exact Or.inr ⟨same, List.pairwise_iff_forall_sublist.mp ordered original⟩

end ByNumber

/-! ### Sorted reports -/

namespace Report

/-- The first report holds what the second holds, ordered by where it starts, and what starts at one
offset in the order of the second. -/
structure IsSortOf (sorted original : Report) : Prop where
  ascending : sorted.diagnostics.Pairwise fun d d' => d.span.start ≤ d'.span.start
  stable : ∀ start, sorted.diagnostics.filter (·.span.start == start) =
    original.diagnostics.filter (·.span.start == start)

/-- The diagnostics of a report in the order that merging gives them. -/
def sort (r : Report) : Report := ⟨r.diagnostics.mergeSort (·.span.start ≤ ·.span.start)⟩

theorem merge_eq_sort (first second : Report) :
    first.merge second = sort ⟨first.diagnostics ++ second.diagnostics⟩ := rfl

theorem sort_perm (r : Report) : r.sort.diagnostics.Perm r.diagnostics := List.mergeSort_perm _ _

theorem sort_isSortOf (r : Report) : r.sort.IsSortOf r :=
  ⟨pairwise_mergeSort_le _ r.diagnostics, filter_mergeSort _ r.diagnostics⟩

/-! ### One stable order -/

/-- Two lists hold the same at each offset, in the same order. -/
def SameLevels (xs ys : List Diagnostic) : Prop :=
  ∀ start, xs.filter (·.span.start == start) = ys.filter (·.span.start == start)

theorem SameLevels.symm {xs ys : List Diagnostic} (same : SameLevels xs ys) : SameLevels ys xs :=
  fun start => (same start).symm

theorem SameLevels.mem {xs ys : List Diagnostic} (same : SameLevels xs ys) {d : Diagnostic}
    (member : d ∈ xs) : d ∈ ys := by
  have found : d ∈ xs.filter (·.span.start == d.span.start) :=
    List.mem_filter.mpr ⟨member, beq_self_eq_true _⟩
  rw [same] at found
  exact (List.mem_filter.mp found).1

/-- The head of a list in order starts no later than anything at the levels of the list. -/
theorem SameLevels.head_le {xs ys : List Diagnostic} {d d' : Diagnostic}
    (same : SameLevels xs (d' :: ys)) (ascending : (d' :: ys).Pairwise (·.span.start ≤ ·.span.start))
    (member : d ∈ xs) : d'.span.start ≤ d.span.start := by
  rcases List.mem_cons.mp (same.mem member) with rfl | later
  · exact Nat.le_refl _
  · exact (List.pairwise_cons.mp ascending).1 d later

theorem SameLevels.eq {xs ys : List Diagnostic} (same : SameLevels xs ys)
    (first : xs.Pairwise (·.span.start ≤ ·.span.start))
    (second : ys.Pairwise (·.span.start ≤ ·.span.start)) : xs = ys := by
  induction xs generalizing ys with
  | nil =>
    cases ys with
    | nil => rfl
    | cons d ys => cases same.symm.mem List.mem_cons_self
  | cons d xs ih =>
    cases ys with
    | nil => cases same.mem List.mem_cons_self
    | cons d' ys =>
      have level : d'.span.start = d.span.start := Nat.le_antisymm
        (same.head_le second List.mem_cons_self) (same.symm.head_le first List.mem_cons_self)
      have heads := same d.span.start
      simp only [List.filter_cons, level, beq_self_eq_true, if_true, List.cons.injEq] at heads
      obtain ⟨rfl, _⟩ := heads
      have tails : SameLevels xs ys := by
        intro start
        have both := same start
        simp only [List.filter_cons] at both
        split at both
        · exact (List.cons.inj both).2
        · exact both
      rw [ih tails (List.pairwise_cons.mp first).2 (List.pairwise_cons.mp second).2]

theorem IsSortOf.unique {a b r : Report} (first : a.IsSortOf r) (second : b.IsSortOf r) : a = b := by
  have same : SameLevels a.diagnostics b.diagnostics :=
    fun start => (first.stable start).trans (second.stable start).symm
  have equal := same.eq first.ascending second.ascending
  cases a
  cases b
  exact congrArg Report.mk equal

end Report

end JsxCheck
