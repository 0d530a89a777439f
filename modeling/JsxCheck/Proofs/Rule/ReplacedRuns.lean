import JsxCheck.Proofs.Fix.Splice
import JsxCheck.Proofs.Fix.Text
import JsxCheck.Proofs.Lint.Fixes
import JsxCheck.Proofs.Source.Occurrences

/-!
Runs of `&nbsp;` and the strings of spaces in their places.

An entity begins with a byte that it has nowhere else, so no entity begins inside another, and the runs
that are found hold every entity of a text. A string of spaces in braces has no byte of an entity, so
putting it in the place of a run makes no new one. `whitespaceLiteral_replaces_runs` says what the runs of
a text are and what is left once all are replaced.
-/
namespace JsxCheck

/-- What shares no member with the list that stands in between is in front of that or behind it. -/
theorem infix_append_of_disjoint {α : Type} {w x y z : List α} (apart : ∀ b ∈ y, b ∉ w)
    (between : y ≠ []) (inside : w <:+: x ++ (y ++ z)) : w <:+: x ∨ w <:+: z := by
  have behind : ∀ {y : List α}, (∀ b ∈ y, b ∉ w) → w <:+: y ++ z → w <:+: z := by
    intro y apart inside
    induction y with
    | nil => exact inside
    | cons b y ih =>
      rcases List.infix_cons_iff.mp inside with here | later
      · rcases List.prefix_cons_iff.mp here with rfl | ⟨t, rfl, _⟩
        · exact List.nil_infix
        · exact absurd List.mem_cons_self (apart b List.mem_cons_self)
      · exact ih (fun c member => apart c (List.mem_cons_of_mem _ member)) later
  induction x with
  | nil => exact Or.inr (behind apart inside)
  | cons a x ih =>
    rcases List.infix_cons_iff.mp inside with here | later
    · rcases List.prefix_or_prefix_of_prefix here (List.prefix_append (a :: x) (y ++ z)) with
        short | ⟨m, rfl⟩
      · exact Or.inl short.isInfix
      · -- What reaches beyond the front begins there with a member of the list in between.
        have beyond : m <+: y ++ z := (List.prefix_append_right_inj (a :: x)).mp here
        obtain ⟨b, y, rfl⟩ := List.exists_cons_of_ne_nil between
        rcases List.prefix_cons_iff.mp beyond with rfl | ⟨t, rfl, _⟩
        · simp only [List.append_nil, List.infix_rfl, true_or]
        · exact absurd (List.mem_append_right _ List.mem_cons_self) (apart b List.mem_cons_self)
    · exact (ih later).imp_left fun found => List.infix_cons found

namespace Rule

namespace NonBreakingSpace

theorem entity_size : entity.utf8ByteSize = 6 := by decide

/-- The replacement of a run. -/
def fixOf (run : Nat × Nat) : Fix :=
  ⟨⟨run.1, run.1 + run.2 * entity.utf8ByteSize⟩, spaces run.2, none⟩

variable {s : Source} {text : String} {i : Nat} {run : Nat × Nat}

/-! ### All entities -/

/-- An entity begins with `&` and has no other. -/
theorem entity_apart {j k : Nat} (first : s.hasAt entity j = true) (second : s.hasAt entity k = true)
    (less : j < k) : j + entity.utf8ByteSize ≤ k := by
  by_contra inside
  have ampersand := Source.byte?_of_hasAt second (k := 0) (by decide)
  have within : k - j < entity.utf8ByteSize := by omega
  have same := Source.byte?_of_hasAt first within
  rw [show j + (k - j) = k + 0 by omega, ampersand] at same
  have other : ∀ n, n < entity.utf8ByteSize → 0 < n →
      (Source.mk entity).byte? 0 ≠ (Source.mk entity).byte? n := by decide
  exact other (k - j) within (by omega) same

theorem mem_runsOf_iff :
    (Source.mk text).hasAt entity i = true ↔ ∃ run ∈ runsOf text, i ∈ entitiesOf run := by
  have enough : (Source.mk text).size < 0 + (text.utf8ByteSize + 1) := by
    rw [Nat.zero_add]
    exact Nat.lt_succ_self _
  have listed : i ∈ (Source.mk text).occurrencesFrom entity (text.utf8ByteSize + 1) 0 ↔ _ :=
    Source.mem_occurrencesFrom_iff (by decide) (fun _ _ => entity_apart) enough
  rw [← List.mem_flatMap, runsOf, flatMap_entitiesOf_runs, listed]
  exact (and_iff_right (Nat.zero_le i)).symm

theorem runsOf_apart (text : String) :
    (runsOf text).Pairwise fun a b => a.1 + a.2 * entity.utf8ByteSize < b.1 :=
  runs_apart ((Source.mk text).occurrencesFrom_beside entity _ 0)

/-- Two runs are the same one, or something stands between them. -/
theorem runsOf_beside {a b : Nat × Nat} (first : a ∈ runsOf text) (second : b ∈ runsOf text) :
    a = b ∨ a.1 + a.2 * entity.utf8ByteSize < b.1 ∨ b.1 + b.2 * entity.utf8ByteSize < a.1 := by
  have forward : (runsOf text).Pairwise fun a b => a = b ∨ a.1 + a.2 * entity.utf8ByteSize < b.1 ∨
      b.1 + b.2 * entity.utf8ByteSize < a.1 := (runsOf_apart text).imp (Or.inr ∘ Or.inl)
  have backward : (runsOf text).Pairwise fun b a => a = b ∨ a.1 + a.2 * entity.utf8ByteSize < b.1 ∨
      b.1 + b.2 * entity.utf8ByteSize < a.1 := (runsOf_apart text).imp (Or.inr ∘ Or.inr)
  have same : ∀ a ∈ runsOf text, a = a ∨ a.1 + a.2 * entity.utf8ByteSize < a.1 ∨
      a.1 + a.2 * entity.utf8ByteSize < a.1 := fun a _ => Or.inl rfl
  exact forward.forall_of_forall_of_flip same backward first second

/-- An entity of a run stands between the ends of the run. -/
theorem within_of_mem_entitiesOf (member : i ∈ entitiesOf run) :
    run.1 ≤ i ∧ i + entity.utf8ByteSize ≤ run.1 + run.2 * entity.utf8ByteSize := by
  obtain ⟨k, less, rfl⟩ := mem_entitiesOf_iff.mp member
  have width := Nat.mul_le_mul_right entity.utf8ByteSize (Nat.succ_le_of_lt less)
  rw [Nat.succ_mul] at width
  omega

/-- A run is as long as it can be. -/
theorem runsOf_maximal (member : run ∈ runsOf text) :
    (Source.mk text).hasAt entity (run.1 + run.2 * entity.utf8ByteSize) = false ∧
      ∀ j, j + entity.utf8ByteSize = run.1 → (Source.mk text).hasAt entity j = false := by
  have size := entity_size
  refine ⟨Bool.eq_false_iff.mpr fun behind => ?_, fun j touching => Bool.eq_false_iff.mpr fun before => ?_⟩
  · obtain ⟨other, listed, inside⟩ := mem_runsOf_iff.mp behind
    have within := within_of_mem_entitiesOf inside
    rcases runsOf_beside member listed with rfl | after | ahead
    · omega
    · omega
    · omega
  · obtain ⟨other, listed, inside⟩ := mem_runsOf_iff.mp before
    have within := within_of_mem_entitiesOf inside
    rcases runsOf_beside member listed with rfl | after | ahead
    · omega
    · omega
    · omega

theorem existsUnique_run (here : (Source.mk text).hasAt entity i = true) :
    ∃! run, run ∈ runsOf text ∧ i ∈ entitiesOf run := by
  have size := entity_size
  obtain ⟨run, listed, inside⟩ := mem_runsOf_iff.mp here
  refine ⟨run, ⟨listed, inside⟩, ?_⟩
  rintro other ⟨listed', inside'⟩
  have within := within_of_mem_entitiesOf inside
  have within' := within_of_mem_entitiesOf inside'
  rcases runsOf_beside listed' listed with same | before | after
  · exact same
  · omega
  · omega

/-! ### No entity left -/

/-- An entity in a stretch of a text is an entity of the text. -/
theorem exists_hasAt_of_isInfix {j : Nat} (inside : (Source.mk entity).bytes <:+: (s.bytes.take j).drop i) :
    ∃ k, i ≤ k ∧ k + entity.utf8ByteSize ≤ j ∧ s.hasAt entity k = true := by
  have size : (Source.mk entity).bytes.length = entity.utf8ByteSize := (Source.size_eq _).symm
  have positive := entity_size
  obtain ⟨front, back, whole⟩ := inside
  have length := congrArg List.length whole
  rw [List.length_append, List.length_append, List.length_drop, List.length_take, size] at length
  refine ⟨i + front.length, Nat.le_add_right _ _, by omega, Source.hasAt_iff_isPrefix.mpr ?_⟩
  have rest : (s.bytes.take j).drop (i + front.length) = (Source.mk entity).bytes ++ back := by
    rw [← List.drop_drop, ← whole, List.append_assoc, List.drop_left]
  rw [List.drop_take] at rest
  exact (rest ▸ List.prefix_append _ _ : _ <+: (s.bytes.drop (i + front.length)).take _).trans
    (List.take_prefix _ _)

theorem spaces_bytes (count : Nat) : (Source.mk (spaces count)).bytes =
    [123, 34] ++ List.replicate count 32 ++ [34, 125] := by
  have blank : (List.replicate count ' ').flatMap String.utf8EncodeChar = List.replicate count 32 := by
    induction count with
    | zero => rfl
    | succ count ih =>
      rw [List.replicate_succ, List.flatMap_cons, ih]
      rfl
  simp only [Source.bytes, spaces, String.toList_append, String.toList_ofList, List.flatMap_append, blank]
  rfl

/-- A string of spaces in braces has no byte of an entity. -/
theorem spaces_disjoint {count : Nat} {b : UInt8} (member : b ∈ (Source.mk (spaces count)).bytes) :
    b ∉ (Source.mk entity).bytes := by
  have kinds : b ∈ ([123, 34, 32, 125] : List UInt8) := by
    rw [spaces_bytes] at member
    simp only [List.mem_append, List.mem_replicate, List.mem_cons, List.not_mem_nil, or_false] at member ⊢
    rcases member with ((rfl | rfl) | ⟨_, rfl⟩) | rfl | rfl <;> simp
  have none : ∀ b ∈ ([123, 34, 32, 125] : List UInt8), b ∉ (Source.mk entity).bytes := by
    decide +kernel
  exact none b kinds

/-- Where all entities from an offset on are in some runs, none is left when these are replaced. -/
theorem not_infix_splice {runs : List (Nat × Nat)}
    (apart : runs.Pairwise fun a b => a.1 + a.2 * entity.utf8ByteSize < b.1)
    (behind : ∀ run ∈ runs, i ≤ run.1)
    (covered : ∀ k, i ≤ k → s.hasAt entity k = true → ∃ run ∈ runs, k ∈ entitiesOf run) :
    ¬ (Source.mk entity).bytes <:+: Fix.splice s.bytes i (runs.map fixOf) := by
  have size := entity_size
  induction runs generalizing i with
  | nil =>
    intro inside
    rw [List.map_nil, Fix.splice, ← List.take_length (l := s.bytes)] at inside
    obtain ⟨k, low, _, here⟩ := exists_hasAt_of_isInfix inside
    obtain ⟨_, listed, _⟩ := covered k low here
    cases listed
  | cons run runs ih =>
    obtain ⟨first, apart⟩ := List.pairwise_cons.mp apart
    intro inside
    have between : (Source.mk (spaces run.2)).bytes ≠ [] := by simp [spaces_bytes]
    rw [List.map_cons, Fix.splice, List.append_assoc] at inside
    rcases infix_append_of_disjoint (fun _ => spaces_disjoint) between inside with front | rest
    · obtain ⟨k, low, high, here⟩ := exists_hasAt_of_isInfix front
      change k + entity.utf8ByteSize ≤ run.1 at high
      obtain ⟨other, listed, member⟩ := covered k low here
      have within := within_of_mem_entitiesOf member
      rcases List.mem_cons.mp listed with rfl | later
      · omega
      · have after := first other later
        omega
    · refine ih apart (fun other later => Nat.le_of_lt (first other later)) (fun k low here => ?_) rest
      change run.1 + run.2 * entity.utf8ByteSize ≤ k at low
      have start := behind run List.mem_cons_self
      obtain ⟨other, listed, member⟩ := covered k (by omega) here
      rcases List.mem_cons.mp listed with rfl | later
      · have within := within_of_mem_entitiesOf member
        omega
      · exact ⟨other, later, member⟩

/-! ### All runs replaced -/

theorem runs_fixes_ascending (text : String) :
    ((runsOf text).map fixOf).Pairwise Fix.Before := by
  refine List.pairwise_map.mpr ((runsOf_apart text).imp fun {a b} before => ⟨Nat.le_of_lt before, ?_⟩)
  exact Nat.lt_of_le_of_lt (Nat.le_add_right _ _) before

theorem runs_fixes_sliceable : ∀ f ∈ (runsOf text).map fixOf, (Source.mk text).Sliceable f.span := by
  intro f member
  obtain ⟨run, listed, rfl⟩ := List.mem_map.mp member
  exact sliceable_of_mem_runsOf listed

theorem runs_fixes_fit : ∀ f ∈ (runsOf text).map fixOf, f.Fits (Source.mk text).bytes :=
  fun f member => Fix.fits_of_sliceable (runs_fixes_sliceable f member)

/-- With all runs replaced, the text is a text without entities. -/
theorem exists_text_without_entity (text : String) :
    ∃ fixed : String,
      (Source.mk fixed).bytes = Fix.splice (Source.mk text).bytes 0 ((runsOf text).map fixOf) ∧
        containsText fixed entity = false := by
  obtain ⟨fixed, made⟩ :=
    Fix.exists_text_applyAll ((runs_fixes_ascending text).imp Or.inl) runs_fixes_sliceable
  rw [Fix.applyAll_of_ascending (runs_fixes_ascending text) runs_fixes_fit] at made
  refine ⟨fixed.text, made, Bool.eq_false_iff.mpr fun contained => ?_⟩
  refine not_infix_splice (runsOf_apart text) (fun _ _ => Nat.zero_le _)
    (fun k _ here => mem_runsOf_iff.mp here) ?_
  rw [← made]
  exact containsText_iff_isInfix.mp contained

end NonBreakingSpace

open NonBreakingSpace

theorem fixesOf_whitespaceLiteral_eq_shift (doc : Document) (text : Span) :
    fixesOf (whitespaceLiteral doc text) =
      ((runsOf (doc.text text)).map fixOf).map (Fix.shift text.start) := by
  rw [fixesOf_whitespaceLiteral, List.map_map]
  refine List.map_congr_left fun run _ => ?_
  simp only [Function.comp_apply, fixOf, Fix.shift, Nat.add_assoc]

/-- The runs of a text are apart, each is of entities side by side and as long as it can be, and every
entity is in just one. The fixes together put a string of spaces in the place of each run, keep all else,
and leave no entity. -/
theorem whitespaceLiteral_replaces_runs (doc : Document) {text : Span}
    (sliceable : doc.source.Sliceable text) :
    let raw := Source.mk (doc.text text)
    let runs := runsOf (doc.text text)
    runs.Pairwise (fun a b => a.1 + a.2 * entity.utf8ByteSize < b.1) ∧
      (∀ run ∈ runs, 0 < run.2 ∧
        (∀ k, k < run.2 → raw.hasAt entity (run.1 + k * entity.utf8ByteSize) = true) ∧
        raw.hasAt entity (run.1 + run.2 * entity.utf8ByteSize) = false ∧
        ∀ i, i + entity.utf8ByteSize = run.1 → raw.hasAt entity i = false) ∧
      (∀ i, raw.hasAt entity i = true →
        ∃! run, run ∈ runs ∧ ∃ k, k < run.2 ∧ i = run.1 + k * entity.utf8ByteSize) ∧
      ∃ fixed : String, (Source.mk fixed).bytes = Fix.splice raw.bytes 0 (runs.map fixOf) ∧
        Fix.applyAll (fixesOf (whitespaceLiteral doc text)) doc.source.bytes =
          doc.source.bytes.take text.start ++ (Source.mk fixed).bytes ++
            doc.source.bytes.drop text.stop ∧
        containsText fixed entity = false := by
  intro raw runs
  refine ⟨runsOf_apart _, fun run listed => ?_, fun i here => ?_, ?_⟩
  · have entities : ∀ k, k < run.2 → raw.hasAt entity (run.1 + k * entity.utf8ByteSize) = true :=
      fun k less => mem_runsOf_iff.mpr ⟨run, listed, mem_entitiesOf_iff.mpr ⟨k, less, rfl⟩⟩
    exact ⟨((runsOf_spec _).2 run listed).1, entities, runsOf_maximal listed⟩
  · simpa only [mem_entitiesOf_iff] using existsUnique_run here
  · obtain ⟨fixed, made, clean⟩ := exists_text_without_entity (doc.text text)
    refine ⟨fixed, made, ?_, clean⟩
    have parts : doc.source.bytes =
        doc.source.bytes.take text.start ++ raw.bytes ++ doc.source.bytes.drop text.stop :=
      sliceable.bytes_eq_append
    have front : (doc.source.bytes.take text.start).length = text.start := by
      have bounded := sliceable.bounded
      rw [Source.size_eq] at bounded
      exact List.length_take_of_le (Nat.le_trans sliceable.ordered bounded)
    have shifted : Fix.applyAll
        ((runs.map fixOf).map (Fix.shift (doc.source.bytes.take text.start).length))
        (doc.source.bytes.take text.start ++ raw.bytes ++ doc.source.bytes.drop text.stop) = _ :=
      Fix.applyAll_shift (runs_fixes_ascending _) runs_fixes_fit
    rw [front, ← parts, ← fixesOf_whitespaceLiteral_eq_shift,
      Fix.applyAll_of_ascending (runs_fixes_ascending _) runs_fixes_fit, ← made] at shifted
    exact shifted

/-- Two entities, a letter and another entity in an element. -/
def entitiesText : String := "<p>a&nbsp;&nbsp;b&nbsp;</p>"

theorem whitespaceLiteral_replaces_runs_of_entitiesText :
    let doc := Document.ofText entitiesText .tsx none []
    let text : Span := ⟨3, 23⟩
    doc.source.Sliceable text ∧ runsOf (doc.text text) = [(1, 2), (14, 1)] ∧
      (∀ i, (Source.mk (doc.text text)).hasAt entity i = true →
        ∃! run, run ∈ runsOf (doc.text text) ∧
          ∃ k, k < run.2 ∧ i = run.1 + k * entity.utf8ByteSize) ∧
      Fix.applyAll (fixesOf (whitespaceLiteral doc text)) doc.source.bytes =
        (Source.mk "<p>a\x7b\"  \"\x7db\x7b\" \"\x7d</p>").bytes := by
  intro doc text
  have sliceable : doc.source.Sliceable text :=
    (Source.sliceable_iff _ _).mpr (by decide +kernel)
  obtain ⟨_, _, once, fixed, made, replaced, _⟩ := whitespaceLiteral_replaces_runs doc sliceable
  refine ⟨sliceable, by decide +kernel, once, ?_⟩
  rw [replaced, made]
  decide +kernel

end Rule

end JsxCheck
