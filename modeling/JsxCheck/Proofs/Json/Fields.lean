import JsxCheck.Json.Reader
import Mathlib.Data.List.Induction
import Mathlib.Data.List.Sort
import Mathlib.Data.String.Basic

/-!
Objects and the entries they are written with.

An object holds the value written last for each key, its keys in order. So objects with the same last
values are equal, in whatever order their entries are written.
-/
namespace JsxCheck

namespace Json

/-- The value written last for a key. -/
def lastWritten? (written : List (String × Json)) (key : String) : Option Json :=
  (written.reverse.find? (·.1 == key)).map (·.2)

/-- Each key stands once, and the keys in order. -/
def KeysInOrder (fields : List (String × Json)) : Prop := fields.Pairwise fun a b => a.1 < b.1

/-- The entries of an object that is written with these entries. -/
def fieldsOf (written : List (String × Json)) : List (String × Json) :=
  written.foldl (fun fields e => insertField e.1 e.2 fields) []

theorem ofFields_eq (written : List (String × Json)) : ofFields written = .object (fieldsOf written) :=
  rfl

theorem fieldsOf_concat (written : List (String × Json)) (key : String) (value : Json) :
    fieldsOf (written ++ [(key, value)]) = insertField key value (fieldsOf written) := by
  rw [fieldsOf, List.foldl_append]
  rfl

/-! ### One entry -/

theorem find?_insertField (key : String) (value : Json) (fields : List (String × Json))
    (name : String) :
    (insertField key value fields).find? (·.1 == name) =
      if key = name then some (key, value) else fields.find? (·.1 == name) := by
  induction fields with
  | nil =>
    by_cases same : key = name
    · simp [insertField, same]
    · simp [insertField, same]
  | cons field rest ih =>
    obtain ⟨k, v⟩ := field
    unfold insertField
    split
    · by_cases same : key = name
      · simp [same]
      · simp [same]
    · split
      · rename_i equal
        subst equal
        by_cases same : key = name
        · simp [same]
        · simp [same]
      · rename_i different
        by_cases here : k = name
        · have other : key ≠ name := fun same => different (same.trans here.symm)
          simp [here, other]
        · rw [List.find?_cons_of_neg (by simp [here]), ih, List.find?_cons_of_neg (by simp [here])]

theorem mem_insertField {key : String} {value : Json} {fields : List (String × Json)}
    {field : String × Json} (found : field ∈ insertField key value fields) :
    field = (key, value) ∨ field ∈ fields := by
  fun_induction insertField key value fields with
  | case1 => exact Or.inl (List.mem_singleton.mp found)
  | case2 => exact List.mem_cons.mp found
  | case3 _ rest _ =>
    rcases List.mem_cons.mp found with here | later
    · exact Or.inl here
    · exact Or.inr (List.mem_cons_of_mem _ later)
  | case4 k v rest _ _ ih =>
    rcases List.mem_cons.mp found with here | later
    · exact Or.inr (List.mem_cons.mpr (Or.inl here))
    · exact (ih later).imp_right (List.mem_cons_of_mem _)

/-- A key put at its place keeps the order. -/
theorem KeysInOrder.insertField {fields : List (String × Json)} (sorted : KeysInOrder fields)
    (key : String) (value : Json) : KeysInOrder (insertField key value fields) := by
  fun_induction Json.insertField key value fields with
  | case1 => exact List.pairwise_singleton _ _
  | case2 k v rest before =>
    refine List.pairwise_cons.mpr ⟨?_, sorted⟩
    intro field found
    rcases List.mem_cons.mp found with rfl | later
    · exact before
    · exact before.trans ((List.pairwise_cons.mp sorted).1 field later)
  | case3 v rest _ =>
    obtain ⟨first, others⟩ := List.pairwise_cons.mp sorted
    exact List.pairwise_cons.mpr ⟨first, others⟩
  | case4 k v rest notBefore different ih =>
    obtain ⟨first, others⟩ := List.pairwise_cons.mp sorted
    refine List.pairwise_cons.mpr ⟨?_, ih others⟩
    intro field found
    rcases mem_insertField found with rfl | old
    · exact lt_of_le_of_ne (not_lt.mp notBefore) (Ne.symm different)
    · exact first field old

/-! ### All entries -/

theorem keysInOrder_fieldsOf (written : List (String × Json)) : KeysInOrder (fieldsOf written) := by
  induction written using List.reverseRecOn with
  | nil => exact List.Pairwise.nil
  | append_singleton written entry ih =>
    rw [fieldsOf_concat]
    exact ih.insertField _ _

theorem find?_fieldsOf (written : List (String × Json)) (key : String) :
    (fieldsOf written).find? (·.1 == key) = written.reverse.find? (·.1 == key) := by
  induction written using List.reverseRecOn with
  | nil => rfl
  | append_singleton written entry ih =>
    obtain ⟨name, value⟩ := entry
    rw [fieldsOf_concat, find?_insertField, ih, List.reverse_concat]
    by_cases same : name = key
    · rw [if_pos same, List.find?_cons_of_pos (by simp [same])]
    · rw [if_neg same, List.find?_cons_of_neg (by simp [same])]

/-- Of entries with their keys in order, one is found by its key. -/
theorem KeysInOrder.find?_eq_some_iff {fields : List (String × Json)} (sorted : KeysInOrder fields)
    (key : String) (value : Json) :
    fields.find? (·.1 == key) = some (key, value) ↔ (key, value) ∈ fields := by
  refine ⟨List.mem_of_find?_eq_some, ?_⟩
  intro found
  induction fields with
  | nil => cases found
  | cons field rest ih =>
    obtain ⟨first, others⟩ := List.pairwise_cons.mp sorted
    rcases List.mem_cons.mp found with rfl | later
    · exact List.find?_cons_of_pos (by simp)
    · have different : field.1 ≠ key := ne_of_lt (first _ later)
      rw [List.find?_cons_of_neg (by simp [different])]
      exact ih others later

/-- Of entries with their keys in order, the first with a property has the least key of those. -/
theorem KeysInOrder.find?_eq_some_iff_least {fields : List (String × Json)}
    (sorted : KeysInOrder fields) (p : String × Json → Bool) (entry : String × Json) :
    fields.find? p = some entry ↔
      entry ∈ fields ∧ p entry = true ∧ ∀ other ∈ fields, p other = true → entry.1 ≤ other.1 := by
  induction fields with
  | nil => simp
  | cons first rest ih =>
    obtain ⟨before, others⟩ := List.pairwise_cons.mp sorted
    by_cases holds : p first = true
    · rw [List.find?_cons_of_pos holds, Option.some.injEq]
      constructor
      · rintro rfl
        refine ⟨List.mem_cons_self, holds, ?_⟩
        rw [List.forall_mem_cons]
        exact ⟨fun _ => le_rfl, fun other found _ => (before other found).le⟩
      · rintro ⟨found, _, least⟩
        rcases List.mem_cons.mp found with same | later
        · exact same.symm
        · exact absurd (before entry later) (not_lt.mpr (least first List.mem_cons_self holds))
    · rw [List.find?_cons_of_neg holds, ih others]
      constructor
      · rintro ⟨found, fits, least⟩
        refine ⟨List.mem_cons_of_mem _ found, fits, ?_⟩
        rw [List.forall_mem_cons]
        exact ⟨fun fits => absurd fits holds, least⟩
      · rintro ⟨found, fits, least⟩
        rcases List.mem_cons.mp found with rfl | later
        · exact absurd fits holds
        · exact ⟨later, fits, fun other found => least other (List.mem_cons_of_mem _ found)⟩

/-- An object holds the values written last. -/
theorem mem_fieldsOf_iff (written : List (String × Json)) (key : String) (value : Json) :
    (key, value) ∈ fieldsOf written ↔ lastWritten? written key = some value := by
  rw [← (keysInOrder_fieldsOf written).find?_eq_some_iff, find?_fieldsOf, lastWritten?,
    Option.map_eq_some_iff]
  constructor
  · exact fun found => ⟨_, found, rfl⟩
  · rintro ⟨entry, found, rfl⟩
    have isKey := List.find?_some found
    have named : entry.1 = key := beq_iff_eq.mp isKey
    rw [found, ← named]

/-- Objects with the same last values are equal. -/
theorem fieldsOf_eq_of_lastWritten? {written other : List (String × Json)}
    (same : ∀ key, lastWritten? written key = lastWritten? other key) :
    fieldsOf written = fieldsOf other := by
  have irreflexive : Std.Irrefl fun a b : String × Json => a.1 < b.1 := ⟨fun a => lt_irrefl a.1⟩
  have asymmetric : Std.Asymm fun a b : String × Json => a.1 < b.1 := ⟨fun _ _ => lt_asymm⟩
  refine List.Pairwise.eq_of_mem_iff (keysInOrder_fieldsOf written) (keysInOrder_fieldsOf other) ?_
  rintro ⟨key, value⟩
  rw [mem_fieldsOf_iff, mem_fieldsOf_iff, same]

/-! ### Objects that are read -/

theorem numberOf_ne_object {negative : Bool} {whole fraction : List Char} {exponent : Option Int}
    {fields : List (String × Json)} :
    numberOf negative whole fraction exponent ≠ some (.object fields) := by
  unfold numberOf
  dsimp only
  split
  · simp
  · split
    · simp
    · split
      · simp
      · simp

theorem readNumber?_ne_object {cs rest : List Char} {fields : List (String × Json)} :
    readNumber? cs ≠ some (.object fields, rest) := by
  intro read
  unfold readNumber? at read
  simp only [Option.bind_eq_bind, Option.bind_eq_some_iff, Option.pure_def, Option.some.injEq,
    Prod.mk.injEq] at read
  obtain ⟨_, _, _, _, _, _, _, number, rfl, _⟩ := read
  exact numberOf_ne_object number

theorem readWord?_ne_object {word : String} {value : Json} {cs rest : List Char}
    {fields : List (String × Json)} (plain : ∀ fields, value ≠ .object fields) :
    readWord? word value cs ≠ some (.object fields, rest) := by
  unfold readWord?
  split
  · simp [plain]
  · simp

theorem exists_written_of_readValue? {fuel depth : Nat} {cs rest : List Char}
    {fields : List (String × Json)} (read : readValue? fuel depth cs = some (.object fields, rest)) :
    ∃ written, fields = fieldsOf written := by
  revert read
  fun_cases readValue? fuel depth cs with
  | case1 | case2 | case3 | case4 | case5 | case6 | case7 => simp
  | case8 =>
    intro read
    cases read
    exact ⟨[], rfl⟩
  | case9 =>
    intro read
    obtain ⟨⟨written, _⟩, _, given⟩ := Option.map_eq_some_iff.mp read
    exact ⟨written, (object.inj (Prod.mk.inj given).1).symm⟩
  | case10 | case11 | case12 => exact fun read => absurd read (readWord?_ne_object (by simp))
  | case13 => exact fun read => absurd read readNumber?_ne_object

/-- Every object of a text is written with entries. -/
theorem exists_written_of_parse? {text : String} {fields : List (String × Json)}
    (parsed : parse? text = some (.object fields)) : ∃ written, fields = fieldsOf written := by
  unfold parse? at parsed
  dsimp only at parsed
  split at parsed
  · rename_i read
    split at parsed
    · cases parsed
      exact exists_written_of_readValue? read
    · cases parsed
  · cases parsed

end Json

end JsxCheck
