import JsxCheck.Proofs.Config.Settings
import JsxCheck.Proofs.Json.Fields
import JsxCheck.Proofs.Source.ByteOrder

/-!
Configurations that objects give.

Whether an entry is refused depends on nothing but the entry. So a run of entries is refused by the
first of them that is refused on its own, and an object, whose keys are in order, by the least such
key. `ofJson_ofFields` says what an object gives, whatever order its entries are written in.
-/
namespace JsxCheck

namespace Config

/-- Entries are all made just when each is accepted on its own. -/
theorem exists_setAll_iff (base c : Config) (entries : List (String × Json)) :
    (∃ final, c.setAll entries = .ok final) ↔
      ∀ entry ∈ entries, ∃ next, base.set entry.1 entry.2 = .ok next := by
  induction entries generalizing c with
  | nil => exact ⟨fun _ _ found => absurd found List.not_mem_nil, fun _ => ⟨c, rfl⟩⟩
  | cons entry rest ih =>
    obtain ⟨name, value⟩ := entry
    unfold setAll
    rw [List.forall_mem_cons]
    rcases set_cases name value with ⟨e, refused⟩ | ⟨r, setting, _, _, accepted⟩
    · simp [refused]
    · simp only [accepted, ih]
      exact ⟨fun others => ⟨⟨_, rfl⟩, others⟩, fun all => all.2⟩

theorem not_isOk_set_iff (base : Config) (name : String) (value : Json) :
    (!(base.set name value).isOk) = true ↔ ∃ e, base.set name value = .error e := by
  cases base.set name value with
  | ok next => simp [Except.isOk, Except.toBool]
  | error e => simp [Except.isOk, Except.toBool]

/-- The first entry that is refused on its own is the one to blame. -/
theorem setAll_eq_error_iff (base c : Config) (entries : List (String × Json)) (e : ConfigError) :
    c.setAll entries = .error e ↔
      ∃ name value,
        entries.find? (fun entry => !(base.set entry.1 entry.2).isOk) = some (name, value) ∧
        base.set name value = .error e := by
  induction entries generalizing c with
  | nil => simp [setAll]
  | cons entry rest ih =>
    obtain ⟨name, value⟩ := entry
    unfold setAll
    rcases set_cases name value with ⟨e', refused⟩ | ⟨r, setting, _, _, accepted⟩
    · rw [List.find?_cons_of_pos (by rw [not_isOk_set_iff]; exact ⟨e', refused base⟩)]
      simp [refused]
    · rw [List.find?_cons_of_neg (by rw [not_isOk_set_iff]; simp [accepted])]
      simp only [accepted, ih]

/-- Where no key stands twice, an entry that is made settles its rule. -/
theorem setting_setAll {c final : Config} {entries : List (String × Json)}
    (distinct : entries.Pairwise fun a b => a.1 ≠ b.1) (done : c.setAll entries = .ok final)
    (r : RuleName) :
    match (entries.find? (·.1 == r.text)).map (·.2) with
    | some value => r.Gives value (final.setting r)
    | none => final.setting r = c.setting r := by
  induction entries generalizing c with
  | nil =>
    cases done
    rfl
  | cons entry rest ih =>
    obtain ⟨name, value⟩ := entry
    obtain ⟨apart, others⟩ := List.pairwise_cons.mp distinct
    unfold setAll at done
    rcases set_cases name value with ⟨e, refused⟩ | ⟨s, setting, named, given, accepted⟩
    · rw [refused] at done
      cases done
    · rw [accepted] at done
      have later := ih others done
      by_cases same : s = r
      · subst same
        have absent : rest.find? (·.1 == s.text) = none := by
          rw [List.find?_eq_none]
          intro entry found text
          exact apart entry found (named.symm.trans (beq_iff_eq.mp text).symm)
        rw [absent, Option.map_none] at later
        rw [List.find?_cons_of_pos (by simp [named]), Option.map_some]
        dsimp only at later ⊢
        rw [later, setting_put_same]
        exact given
      · have other : name ≠ r.text := fun text => same (RuleName.text_injective (named.trans text))
        rw [List.find?_cons_of_neg (by simp [other]), ← setting_put_other (c := c) setting same]
        exact later

/-- An object gives a configuration just when each of its entries is accepted on its own. Then a rule
has the setting that its entry stands for, and without an entry the recommended one. Otherwise the
least key, by its bytes, of those refused is reported. Only the value written last for a key counts,
and not the order of the keys. Every object that is read from a text is one of these. -/
theorem ofJson_ofFields (base : Config) (written : List (String × Json)) :
    ((∃ c, ofJson (.ofFields written) = .ok c) ↔
      ∀ name value, Json.lastWritten? written name = some value →
        ∃ c, base.set name value = .ok c) ∧
    (∀ c, ofJson (.ofFields written) = .ok c → ∀ r : RuleName,
      match Json.lastWritten? written r.text with
      | some value => r.Gives value (c.setting r)
      | none => c.setting r = recommended.setting r) ∧
    (∀ e, ofJson (.ofFields written) = .error e ↔
      ∃ name value, Json.lastWritten? written name = some value ∧ base.set name value = .error e ∧
        ∀ name' value' e', Json.lastWritten? written name' = some value' →
          base.set name' value' = .error e' → (Source.mk name).bytes ≤ (Source.mk name').bytes) ∧
    (∀ other, (∀ key, Json.lastWritten? other key = Json.lastWritten? written key) →
      ofJson (.ofFields other) = ofJson (.ofFields written)) ∧
    ∀ text fields, Json.parse? text = some (.object fields) →
      ∃ entries, Json.object fields = .ofFields entries ∧ parse text = ofJson (.ofFields entries) := by
  have sorted := Json.keysInOrder_fieldsOf written
  simp only [Json.ofFields_eq, ofJson, ← Json.mem_fieldsOf_iff]
  refine ⟨?_, ?_, ?_, ?_, ?_⟩
  · rw [exists_setAll_iff base, Prod.forall]
  · intro c done r
    have settled := setting_setAll (sorted.imp ne_of_lt) done r
    rw [Json.find?_fieldsOf] at settled
    exact settled
  · intro e
    rw [setAll_eq_error_iff base]
    constructor
    · rintro ⟨name, value, first, failed⟩
      obtain ⟨found, _, least⟩ := (sorted.find?_eq_some_iff_least _ _).mp first
      refine ⟨name, value, found, failed, ?_⟩
      intro name' value' e' found' failed'
      exact Source.bytes_le_iff.mpr
        (least (name', value') found' ((not_isOk_set_iff _ _ _).mpr ⟨e', failed'⟩))
    · rintro ⟨name, value, found, failed, least⟩
      refine ⟨name, value, (sorted.find?_eq_some_iff_least _ _).mpr
        ⟨found, (not_isOk_set_iff _ _ _).mpr ⟨e, failed⟩, ?_⟩, failed⟩
      rintro ⟨name', value'⟩ found' refused
      obtain ⟨e', failed'⟩ := (not_isOk_set_iff _ _ _).mp refused
      exact Source.bytes_le_iff.mp (least name' value' e' found' failed')
  · intro other same
    rw [Json.fieldsOf_eq_of_lastWritten? same]
  · intro text fields parsed
    obtain ⟨entries, rfl⟩ := Json.exists_written_of_parse? parsed
    exact ⟨entries, rfl, by rw [parse, parsed]; rfl⟩

/-- One key is written twice, and another out of its place. -/
def scatteredEntries : List (String × Json) := [
  ("jsx-key", .string "always"),
  ("jsx-curly-spacing", .object [("spacing", .string "never")]),
  ("jsx-key", .null)]

/-- Two entries are refused, the one with the lesser key written last. -/
def refusedTwice : List (String × Json) := [
  ("jsx-unknown", .bool true),
  ("jsx-curly-spacing", .object [("spacing", .string "sometimes")])]

/-- A text in which a key is written twice. -/
def scatteredText : String := "\x7b\"jsx-no-bind\": true, \"jsx-key\": 1, \"jsx-key\": null\x7d"

theorem ofJson_ofFields_of_scatteredEntries :
    (∃ c, ofJson (.ofFields scatteredEntries) = .ok c ∧
      RuleName.Gives .jsxKey .null (c.setting .jsxKey) ∧
      c.setting .jsxNoBind = recommended.setting .jsxNoBind) ∧
    (∃ e name value, ofJson (.ofFields refusedTwice) = .error e ∧
      Json.lastWritten? refusedTwice name = some value ∧ empty.set name value = .error e ∧
      (Source.mk name).bytes ≤ (Source.mk "jsx-unknown").bytes) ∧
    ofJson (.ofFields refusedTwice.reverse) = ofJson (.ofFields refusedTwice) ∧
    ∃ entries, parse scatteredText = ofJson (.ofFields entries) := by
  obtain ⟨accepted, settled, _, _, read⟩ := ofJson_ofFields empty scatteredEntries
  obtain ⟨allAccepted, _, reported, reordered, _⟩ := ofJson_ofFields empty refusedTwice
  refine ⟨?_, ?_, ?_, ?_⟩
  · obtain ⟨c, done⟩ := accepted.mpr fun name value last => by
      by_cases first : "jsx-key" = name
      · subst first
        cases last
        exact ⟨_, rfl⟩
      · by_cases second : "jsx-curly-spacing" = name
        · subst second
          cases last
          exact ⟨_, rfl⟩
        · simp [Json.lastWritten?, scatteredEntries, first, second] at last
    exact ⟨c, done, settled c done .jsxKey, settled c done .jsxNoBind⟩
  · cases result : ofJson (.ofFields refusedTwice) with
    | ok c =>
      obtain ⟨_, done⟩ := allAccepted.mp ⟨c, result⟩ "jsx-unknown" (.bool true) rfl
      cases done
    | error e =>
      obtain ⟨name, value, last, refused, least⟩ := (reported e).mp result
      exact ⟨e, name, value, rfl, last, refused, least "jsx-unknown" (.bool true) _ rfl rfl⟩
  · refine reordered _ fun key => ?_
    by_cases first : "jsx-unknown" = key
    · subst first
      rfl
    · by_cases second : "jsx-curly-spacing" = key
      · subst second
        rfl
      · simp [Json.lastWritten?, refusedTwice, first, second]
  · have isObject : ((Json.parse? scatteredText).bind (Json.field? "jsx-key")).isSome = true := by
      decide +kernel
    obtain ⟨_, found⟩ := Option.isSome_iff_exists.mp isObject
    obtain ⟨json, parsed, holds⟩ := Option.bind_eq_some_iff.mp found
    cases json with
    | object fields =>
      obtain ⟨entries, _, same⟩ := read _ fields parsed
      exact ⟨entries, same⟩
    | _ => cases holds

end Config

end JsxCheck
