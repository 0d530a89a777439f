import JsxCheck.Proofs.Report.Merge

/-!
Reports of many passes.

Passes are merged one after the other. Each merge sorts anew what the earlier ones have sorted, and yet
the result is that of sorting once (`mergeAll_eq_sort`): by start, then by pass, then by position in the
pass.
-/
namespace JsxCheck.Report

/-- Passes merged one after the other into a report that holds nothing. -/
def mergeAll (passes : List Report) : Report := passes.foldl merge {}

/-- A diagnostic, the pass that reports it and its position there. -/
structure Told where
  diagnostic : Diagnostic
  pass : Nat
  position : Nat

/-- Everything that passes report, in the order in which they do. -/
def told (passes : List Report) : List Told :=
  passes.zipIdx.flatMap fun (report, pass) =>
    report.diagnostics.zipIdx.map fun (diagnostic, position) => ⟨diagnostic, pass, position⟩

/-- Of two diagnostics one is reported by an earlier pass, or earlier by one pass. -/
def Told.Earlier (a b : Told) : Prop := a.pass < b.pass ∨ a.pass = b.pass ∧ a.position < b.position

theorem zipIdx_pairwise {α : Type} (l : List α) : l.zipIdx.Pairwise fun a b => a.2 < b.2 := by
  have indices : (l.zipIdx.map Prod.snd).Pairwise (· < ·) := by
    rw [List.zipIdx_map_snd]
    exact List.pairwise_lt_range' 1
  exact List.pairwise_map.mp indices

theorem told_diagnostics (passes : List Report) :
    (told passes).map Told.diagnostic = passes.flatMap diagnostics := by
  have each : ∀ entry : Report × Nat, (entry.1.diagnostics.zipIdx.map fun (diagnostic, position) =>
      (⟨diagnostic, entry.2, position⟩ : Told)).map Told.diagnostic = entry.1.diagnostics := by
    intro entry
    rw [List.map_map]
    exact List.zipIdx_map_fst 0 entry.1.diagnostics
  rw [told, List.map_flatMap, List.flatMap_congr fun entry _ => each entry, ← List.flatMap_map,
    List.zipIdx_map_fst]

theorem told_earlier (passes : List Report) : (told passes).Pairwise Told.Earlier := by
  rw [told, List.pairwise_flatMap]
  refine ⟨fun entry _ => ?_, (zipIdx_pairwise passes).imp fun {a b} less => ?_⟩
  · refine List.pairwise_map.mpr ((zipIdx_pairwise _).imp fun less => ?_)
    exact Or.inr ⟨rfl, less⟩
  · intro first member second member'
    obtain ⟨_, _, rfl⟩ := List.mem_map.mp member
    obtain ⟨_, _, rfl⟩ := List.mem_map.mp member'
    exact Or.inl less

/-- Sorting what is sorted in part changes nothing. -/
theorem sort_sort_append (first second : List Diagnostic) :
    sort ⟨(sort ⟨first⟩).diagnostics ++ second⟩ = sort ⟨first ++ second⟩ := by
  have twice := sort_isSortOf ⟨(sort ⟨first⟩).diagnostics ++ second⟩
  refine IsSortOf.unique ⟨twice.ascending, fun start => ?_⟩ (sort_isSortOf ⟨first ++ second⟩)
  rw [twice.stable, List.filter_append, (sort_isSortOf ⟨first⟩).stable, List.filter_append]

theorem foldl_merge_eq_sort (passes : List Report) (before : List Diagnostic) :
    passes.foldl merge (sort ⟨before⟩) = sort ⟨before ++ passes.flatMap diagnostics⟩ := by
  induction passes generalizing before with
  | nil => rw [List.foldl_nil, List.flatMap_nil, List.append_nil]
  | cons pass passes ih =>
    rw [List.foldl_cons, merge_eq_sort, sort_sort_append, ih, List.flatMap_cons, List.append_assoc]

theorem mergeAll_eq_sort (passes : List Report) :
    mergeAll passes = sort ⟨passes.flatMap diagnostics⟩ := by
  have empty : sort ⟨[]⟩ = ({} : Report) := by
    rw [sort, List.mergeSort_nil]
  rw [mergeAll, ← empty, foldl_merge_eq_sort, List.nil_append]

/-- Sorted by start, what passes report is ordered by start, then by pass, then by position. -/
theorem exists_told_sorted (passes : List Report) :
    ∃ all : List Told, all.Perm (told passes) ∧
      (sort ⟨passes.flatMap diagnostics⟩).diagnostics = all.map Told.diagnostic ∧
      all.Pairwise fun a b => a.diagnostic.span.start < b.diagnostic.span.start ∨
        a.diagnostic.span.start = b.diagnostic.span.start ∧ a.Earlier b := by
  let start (a : Told) : Nat := a.diagnostic.span.start
  refine ⟨(told passes).mergeSort (start · ≤ start ·), List.mergeSort_perm _ _, ?_,
    pairwise_mergeSort_of_pairwise start (told_earlier passes)⟩
  rw [sort, ← told_diagnostics]
  exact (List.map_mergeSort (r := (start · ≤ start ·)) (f := Told.diagnostic)
    fun _ _ _ _ => rfl).symm

/-- Merging passes one after the other gives the one stable order of all that they report: it holds what
they report and no more, ordered by start and, at one start, by pass and by position in the pass. Where
the same diagnostics are cut into passes otherwise, the result is the same. -/
theorem mergeAll_stable (passes : List Report) :
    (∀ sorted, IsSortOf sorted ⟨passes.flatMap diagnostics⟩ ↔ sorted = mergeAll passes) ∧
      (mergeAll passes).diagnostics.Perm (passes.flatMap diagnostics) ∧
      ((mergeAll passes).diagnostics.Pairwise fun d d' => d.span.start ≤ d'.span.start) ∧
      (∃ all : List Told, all.Perm (told passes) ∧
        (mergeAll passes).diagnostics = all.map Told.diagnostic ∧
        all.Pairwise fun a b => a.diagnostic.span.start < b.diagnostic.span.start ∨
          a.diagnostic.span.start = b.diagnostic.span.start ∧ a.Earlier b) ∧
      ∀ others : List Report, others.flatMap diagnostics = passes.flatMap diagnostics →
        mergeAll others = mergeAll passes := by
  have isSort := sort_isSortOf ⟨passes.flatMap diagnostics⟩
  simp only [mergeAll_eq_sort]
  refine ⟨fun sorted => ⟨fun other => other.unique isSort, ?_⟩, sort_perm _, isSort.ascending,
    exists_told_sorted passes, fun others same => by rw [same]⟩
  rintro rfl
  exact isSort

end JsxCheck.Report
