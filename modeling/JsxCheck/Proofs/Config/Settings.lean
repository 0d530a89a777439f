import JsxCheck.Config.Basic

/-!
Settings of rules, and what an entry does to them.

`Gives` says which setting a JSON value stands for. `enter_cases` says all that an entry can do: it is
refused and writes nothing, or it writes the setting of one rule. Which of the two it does, and what
it writes, does not depend on the configuration.
-/
namespace JsxCheck

namespace RuleName

/-- The setting of a rule that a JSON value stands for. -/
inductive Gives (r : RuleName) : Json → Option r.Options → Prop where
  | null : Gives r .null none
  | off : Gives r (.bool false) none
  | on : Gives r (.bool true) (some r.defaultOptions)
  | options {value : Json} {options : r.Options} (notNull : value ≠ .null)
    (notBool : ∀ b, value ≠ .bool b) (read : r.readOptions value = .ok options)
    (patterns : r.badPattern? Pattern.isSpelled options = none) : Gives r value (some options)

theorem readSetting_eq_ok_iff {r : RuleName} {value : Json} {setting : Option r.Options} :
    r.readSetting Pattern.isSpelled value = .ok setting ↔ r.Gives value setting := by
  constructor
  · intro read
    unfold readSetting at read
    split at read
    · cases read
      exact .null
    · cases read
      exact .off
    · cases read
      exact .on
    · rename_i notNull notFalse notTrue
      split at read
      · cases read
      · rename_i options isRead
        split at read
        · cases read
        · rename_i patterns
          cases read
          refine .options notNull ?_ isRead patterns
          intro b
          cases b with
          | false => exact notFalse
          | true => exact notTrue
  · intro given
    cases given with
    | null => rfl
    | off => rfl
    | on => rfl
    | options notNull notBool read patterns =>
      cases value with
      | null => exact absurd rfl notNull
      | bool b => exact absurd rfl (notBool b)
      | _ => simp only [readSetting, read, patterns]

theorem text_of_ofText? {name : String} {r : RuleName} (found : ofText? name = some r) :
    r.text = name := by
  have named := List.find?_some found
  exact beq_iff_eq.mp named

end RuleName

namespace Config

/-! ### Writing one setting -/

theorem setting_put_same (c : Config) (r : RuleName) (setting : Option r.Options) :
    (c.put r setting).setting r = setting := by
  simp [put]

theorem setting_put_other {c : Config} {r s : RuleName} (setting : Option r.Options)
    (different : r ≠ s) : (c.put r setting).setting s = c.setting s := by
  simp [put, different]

theorem eq_of_setting {c c' : Config} (same : ∀ r, c.setting r = c'.setting r) : c = c' := by
  cases c
  cases c'
  exact congrArg mk (funext same)

theorem put_comm (c : Config) {r s : RuleName} (different : r ≠ s) (a : Option r.Options)
    (b : Option s.Options) : (c.put r a).put s b = (c.put s b).put r a := by
  refine eq_of_setting fun t => ?_
  by_cases atS : s = t
  · subst atS
    rw [setting_put_same, setting_put_other _ different, setting_put_same]
  · by_cases atR : r = t
    · subst atR
      rw [setting_put_other _ atS, setting_put_same, setting_put_same]
    · rw [setting_put_other _ atS, setting_put_other _ atR, setting_put_other _ atR,
        setting_put_other _ atS]

/-! ### One entry -/

/-- An entry is refused and leaves the configuration as it was, or it writes the setting that its
value stands for. -/
theorem enter_cases (name : String) (value : Json) :
    (∃ e, ∀ c : Config, (enter name value).run.run c = (.error e, c)) ∨
      ∃ r setting, RuleName.text r = name ∧ r.Gives value setting ∧
        ∀ c : Config, (enter name value).run.run c = (.ok (), c.put r setting) := by
  unfold enter enterWith
  cases known : RuleName.ofText? name with
  | none => exact Or.inl ⟨.unknownRule name, fun c => rfl⟩
  | some r =>
    cases read : r.readSetting Pattern.isSpelled value with
    | error e =>
      refine Or.inl ⟨e, fun c => ?_⟩
      simp only [read]
      rfl
    | ok setting =>
      refine Or.inr ⟨r, setting, RuleName.text_of_ofText? known,
        RuleName.readSetting_eq_ok_iff.mp read, fun c => ?_⟩
      simp only [read]
      rfl

theorem set_cases (name : String) (value : Json) :
    (∃ e, ∀ c : Config, c.set name value = .error e) ∨
      ∃ r setting, RuleName.text r = name ∧ r.Gives value setting ∧
        ∀ c : Config, c.set name value = .ok (c.put r setting) := by
  unfold set setWith
  rw [← enter]
  rcases enter_cases name value with ⟨e, refused⟩ | ⟨r, setting, named, given, written⟩
  · exact Or.inl ⟨e, fun c => by rw [refused]⟩
  · exact Or.inr ⟨r, setting, named, given, fun c => by rw [written]⟩

end Config

end JsxCheck
