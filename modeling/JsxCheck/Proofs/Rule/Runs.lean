import JsxCheck.Proofs.Source.Boundaries
import JsxCheck.Rule.Layout.NonBreakingSpace
import JsxCheck.Syntax.Element

/-!
Runs of `&nbsp;` in a text.

Runs hold all entities, once each (`flatMap_entitiesOf_runs`), and do not touch each other. They lie in the
text and split no character, and a text of white space has none.
-/
namespace JsxCheck.Rule.NonBreakingSpace

/-- A run goes from one entity to the end of another. -/
theorem mem_runs {offsets : List Nat} {run : Nat × Nat} (member : run ∈ runs offsets) :
    0 < run.2 ∧ run.1 ∈ offsets ∧
      ∃ last ∈ offsets, run.1 + run.2 * entity.utf8ByteSize = last + entity.utf8ByteSize := by
  have alone : ∀ offset (rest : List Nat), 0 < 1 ∧ offset ∈ offset :: rest ∧
      ∃ last ∈ offset :: rest, offset + 1 * entity.utf8ByteSize = last + entity.utf8ByteSize :=
    fun offset rest => ⟨Nat.one_pos, List.mem_cons_self, offset, List.mem_cons_self, by
      rw [Nat.one_mul]⟩
  induction offsets generalizing run with
  | nil => cases member
  | cons offset rest ih =>
    have later : run ∈ runs rest → 0 < run.2 ∧ run.1 ∈ offset :: rest ∧
        ∃ last ∈ offset :: rest,
          run.1 + run.2 * entity.utf8ByteSize = last + entity.utf8ByteSize := by
      intro member
      obtain ⟨positive, first, last, ends, same⟩ := ih member
      exact ⟨positive, List.mem_cons_of_mem _ first, last, List.mem_cons_of_mem _ ends, same⟩
    rw [runs] at member
    split at member
    · rename_i start count more shape
      split at member
      · rename_i touching
        rcases List.mem_cons.mp member with rfl | member
        · have joined : (start, count) ∈ runs rest := by
            rw [shape]
            exact List.mem_cons_self
          obtain ⟨_, _, last, ends, same⟩ := ih joined
          refine ⟨Nat.succ_pos _, List.mem_cons_self, last, List.mem_cons_of_mem _ ends, ?_⟩
          dsimp only at same ⊢
          rw [← same, touching, Nat.add_one_mul]
          omega
        · exact later (by rw [shape]; exact List.mem_cons_of_mem _ member)
      · rcases List.mem_cons.mp member with rfl | member
        · exact alone offset rest
        · exact later (by rw [shape]; exact member)
    · obtain rfl := List.mem_singleton.mp member
      exact alone offset rest

/-- Where the entities of a run stand. -/
def entitiesOf (run : Nat × Nat) : List Nat :=
  (List.range run.2).map fun k => run.1 + k * entity.utf8ByteSize

theorem mem_entitiesOf_iff {run : Nat × Nat} {i : Nat} :
    i ∈ entitiesOf run ↔ ∃ k, k < run.2 ∧ i = run.1 + k * entity.utf8ByteSize := by
  simp only [entitiesOf, List.mem_map, List.mem_range, eq_comm]

theorem entitiesOf_succ (offset count : Nat) :
    entitiesOf (offset, count + 1) = offset :: entitiesOf (offset + entity.utf8ByteSize, count) := by
  simp only [entitiesOf, List.range_succ_eq_map, List.map_cons, List.map_map, Nat.zero_mul,
    Nat.add_zero]
  congr 1
  refine List.map_congr_left fun k _ => ?_
  simp only [Function.comp_apply, Nat.succ_mul]
  omega

/-- Joining neighbours loses no entity and doubles none. -/
theorem flatMap_entitiesOf_runs (offsets : List Nat) : (runs offsets).flatMap entitiesOf = offsets := by
  have alone : ∀ offset, entitiesOf (offset, 1) = [offset] := fun offset => entitiesOf_succ offset 0
  induction offsets with
  | nil => rfl
  | cons offset rest ih =>
    rw [runs]
    split
    · rename_i start count more shape
      rw [shape, List.flatMap_cons] at ih
      split
      · rename_i touching
        rw [List.flatMap_cons, entitiesOf_succ, ← touching, List.cons_append, ih]
      · rw [List.flatMap_cons, List.flatMap_cons, ih, alone]
        rfl
    · rename_i shape
      rw [shape] at ih
      rw [List.flatMap_singleton, alone, ← ih]
      rfl

/-- Between runs of entities that lie beside each other something else stands. -/
theorem runs_apart {offsets : List Nat}
    (beside : offsets.Pairwise fun a b => a + entity.utf8ByteSize ≤ b) :
    (runs offsets).Pairwise fun a b => a.1 + a.2 * entity.utf8ByteSize < b.1 := by
  induction offsets with
  | nil => exact List.Pairwise.nil
  | cons offset rest ih =>
    obtain ⟨first, beside⟩ := List.pairwise_cons.mp beside
    have later := ih beside
    rw [runs]
    split
    · rename_i start count more shape
      rw [shape] at later
      obtain ⟨head, tail⟩ := List.pairwise_cons.mp later
      split
      · rename_i touching
        refine List.pairwise_cons.mpr ⟨?_, tail⟩
        intro run member
        have after := head run member
        dsimp only at after ⊢
        rw [touching] at after
        rw [Nat.add_one_mul]
        omega
      · rename_i apart
        have next : (start, count) ∈ runs rest := by
          rw [shape]
          exact List.mem_cons_self
        have low := first start (mem_runs next).2.1
        refine List.pairwise_cons.mpr ⟨?_, later⟩
        intro run member
        dsimp only
        rw [Nat.one_mul]
        rcases List.mem_cons.mp member with rfl | member
        · exact Nat.lt_of_le_of_ne low (Ne.symm apart)
        · have after := head run member
          dsimp only at after
          omega
    · exact List.pairwise_singleton _ _

theorem runsOf_spec (text : String) :
    ((runsOf text).Pairwise fun a b => a.1 + a.2 * entity.utf8ByteSize ≤ b.1) ∧
      ∀ run ∈ runsOf text, 0 < run.2 ∧ run.1 + run.2 * entity.utf8ByteSize ≤ text.utf8ByteSize := by
  refine ⟨(runs_apart ((Source.mk text).occurrencesFrom_beside entity _ 0)).imp Nat.le_of_lt, ?_⟩
  intro run member
  obtain ⟨positive, _, last, ends, same⟩ := mem_runs member
  rw [same]
  exact ⟨positive, (Source.occurrencesFrom_le ends).2.1⟩

/-- A run begins with `&` and ends with `;`, so it can be cut out of the text. -/
theorem sliceable_of_mem_runsOf {text : String} {run : Nat × Nat} (member : run ∈ runsOf text) :
    (Source.mk text).Sliceable ⟨run.1, run.1 + run.2 * entity.utf8ByteSize⟩ := by
  obtain ⟨_, begins, last, ends, same⟩ := mem_runs member
  obtain ⟨_, _, first⟩ := Source.occurrencesFrom_le begins
  obtain ⟨_, _, final⟩ := Source.occurrencesFrom_le ends
  refine ⟨Nat.le_add_right _ _, ?_, ?_⟩
  · exact (Source.isBoundary_of_hasAt first (k := 0) (b := 38) (by decide) (by decide)).1
  · rw [same]
    exact (Source.isBoundary_of_hasAt final (k := 5) (b := 59) (by decide) (by decide)).2

/-- White space holds no `&`. -/
theorem runsOf_eq_nil_of_isBlankText {text : String} (blank : isBlankText text = true) :
    runsOf text = [] := by
  have none : ∀ hit ∈ (Source.mk text).occurrencesFrom entity (text.utf8ByteSize + 1) 0, False := by
    intro hit member
    obtain ⟨_, _, here⟩ := Source.occurrencesFrom_le member
    have ampersand : (Source.mk text).byte? hit = some 38 := by
      have first := List.all_eq_true.mp here 0 (by decide)
      rw [beq_iff_eq, Nat.add_zero] at first
      rw [first]
      decide
    obtain ⟨c, inside, code⟩ := Source.exists_mem_of_byte? ampersand (by decide)
    have blankChar := List.all_eq_true.mp blank c inside
    have isAmpersand : c = '&' := Char.toNat_inj.mp code
    rw [isAmpersand] at blankChar
    revert blankChar
    decide
  rw [runsOf, List.eq_nil_iff_forall_not_mem.mpr none, runs]

end JsxCheck.Rule.NonBreakingSpace
