import JsxCheck.Grammar.Program
import JsxCheck.Proofs.Lint.NameWalk
import JsxCheck.Proofs.Syntax.Formed
import Mathlib.Data.List.Induction
import Mathlib.Data.List.Nodup

/-!
What the pass with names reports.

The reporter keeps two records, what was reported and under which rule and span. `Reporter.Holds` ties
both to everything that was said so far: a step keeps them together (`Holds.report`), so a whole pass
does (`checkResolved_holds`). Hence the pass reports, of all that is said in the order of the visits,
the first of each rule and span.
-/
namespace JsxCheck

/-- The rule of a diagnostic and the span that it points at. -/
def Diagnostic.place (d : Diagnostic) : String × Span := (d.rule, d.span)

/-- What is said, without what has the place of something said before. -/
def firstSaid (said : List Diagnostic) : List Diagnostic :=
  (said.zipIdx.filter fun (d, i) => (said.take i).all (·.place != d.place)).map Prod.fst

theorem firstSaid_concat (said : List Diagnostic) (d : Diagnostic) :
    firstSaid (said ++ [d]) =
      firstSaid said ++ if d.place ∈ said.map Diagnostic.place then [] else [d] := by
  have before : ∀ e ∈ said.zipIdx, ((said ++ [d]).take e.2).all (·.place != e.1.place) =
      (said.take e.2).all (·.place != e.1.place) := by
    intro e member
    have inside := (List.mem_zipIdx' member).1
    rw [List.take_append_of_le_length (Nat.le_of_lt inside)]
  have last : ((said ++ [d]).take said.length).all (·.place != d.place) =
      !decide (d.place ∈ said.map Diagnostic.place) := by
    rw [List.take_left, Bool.eq_iff_iff]
    simp only [List.all_eq_true, bne_iff_ne, ne_eq, Bool.not_eq_true', decide_eq_false_iff_not,
      List.mem_map, not_exists, not_and]
  unfold firstSaid
  rw [List.zipIdx_append, List.filter_append, List.map_append, List.filter_congr before]
  congr 1
  simp only [Nat.zero_add, List.zipIdx_singleton, List.filter_singleton, last]
  by_cases repeated : d.place ∈ said.map Diagnostic.place <;> simp [repeated]

theorem firstSaid_sublist (said : List Diagnostic) : (firstSaid said).Sublist said := by
  have kept := (List.filter_sublist (l := said.zipIdx)
    (p := fun (d, i) => (said.take i).all (·.place != d.place))).map Prod.fst
  rwa [List.zipIdx_map_fst] at kept

theorem mem_places_firstSaid (said : List Diagnostic) (place : String × Span) :
    place ∈ (firstSaid said).map Diagnostic.place ↔ place ∈ said.map Diagnostic.place := by
  induction said using List.reverseRecOn with
  | nil => rfl
  | append_singleton said d ih =>
    rw [firstSaid_concat, List.map_append, List.map_append, List.mem_append, List.mem_append, ih]
    by_cases repeated : d.place ∈ said.map Diagnostic.place
    · rw [if_pos repeated, List.map_nil, List.map_singleton, List.mem_singleton]
      constructor
      · rintro (there | absent)
        · exact Or.inl there
        · cases absent
      · rintro (there | rfl)
        · exact Or.inl there
        · exact Or.inl repeated
    · rw [if_neg repeated]

namespace Reporter

/-- The reporter has been told everything in a list, in that order. -/
structure Holds (r : Reporter) (said : List Diagnostic) : Prop where
  reported : ∀ place, place ∈ r.reported ↔ place ∈ said.map Diagnostic.place
  diagnostics : r.diagnostics.toList = firstSaid said

variable {r : Reporter} {said : List Diagnostic}

theorem holds_nil : ({} : Reporter).Holds [] := ⟨fun _ => Iff.rfl, rfl⟩

theorem Holds.report (holds : r.Holds said) (d : Diagnostic) :
    (r.report d).Holds (said ++ [d]) := by
  have known : r.reported.contains (d.rule, d.span) = true ↔ d.place ∈ said.map Diagnostic.place := by
    rw [List.contains_iff_mem]
    exact holds.reported d.place
  unfold Reporter.report
  by_cases repeated : d.place ∈ said.map Diagnostic.place
  · rw [if_pos (known.mpr repeated)]
    constructor
    · intro place
      rw [holds.reported, List.map_append, List.mem_append, List.map_singleton, List.mem_singleton]
      constructor
      · exact Or.inl
      · rintro (there | rfl)
        · exact there
        · exact repeated
    · rw [holds.diagnostics, firstSaid_concat, if_pos repeated, List.append_nil]
  · rw [if_neg fun there => repeated (known.mp there)]
    constructor
    · intro place
      rw [List.mem_cons, holds.reported, List.map_append, List.mem_append, List.map_singleton,
        List.mem_singleton]
      exact Or.comm
    · rw [Array.toList_push, holds.diagnostics, firstSaid_concat, if_neg repeated]

theorem Holds.reportAll (holds : r.Holds said) (told : List Diagnostic) :
    (r.reportAll told).Holds (said ++ told) := by
  unfold Reporter.reportAll
  induction told generalizing r said with
  | nil => rwa [List.append_nil]
  | cons d told ih =>
    have next := ih (holds.report d)
    rwa [List.append_assoc] at next

/-- Reporting visit after visit keeps the records together with all that is said in the visits. -/
theorem Holds.foldl (holds : r.Holds said) (visits : List Visit) (say : Visit → List Diagnostic) :
    (visits.foldl (fun r v => r.reportAll (say v)) r).Holds (said ++ visits.flatMap say) := by
  induction visits generalizing r said with
  | nil => simpa using holds
  | cons v visits ih =>
    have next := ih (holds.reportAll (say v))
    rwa [List.append_assoc] at next

end Reporter

namespace Config

theorem checkResolved_eq_firstSaid (c : Config) (resolver : Resolver) (doc : Document) (root : Node) :
    (c.checkResolved resolver doc root).diagnostics =
      firstSaid (root.visits.flatMap (c.checkResolvedVisit resolver doc)) := by
  rw [checkResolved_eq_foldl]
  exact (Reporter.holds_nil.foldl root.visits (c.checkResolvedVisit resolver doc)).diagnostics

end Config

end JsxCheck
