import JsxCheck.Proofs.Config.Settings

/-!
Entries made one after the other.

`enterAll_last_write_wins` says what a run of entries leaves behind: each rule has the setting of the
last entry for it that was not refused, and entries for different rules may change places.
-/
namespace JsxCheck

namespace Config

/-- The value of the last entry for a rule that was not refused. -/
def lastEntered? (r : RuleName) (entries : List (String × Json))
    (outcomes : List (Except ConfigError Unit)) : Option Json :=
  ((entries.zip outcomes).reverse.find? fun made => made.1.1 == r.text && made.2.isOk).map (·.1.2)

theorem enterAll_cons (c : Config) (name : String) (value : Json) (rest : List (String × Json)) :
    c.enterAll ((name, value) :: rest) =
      (((enter name value).run.run c).1 :: (((enter name value).run.run c).2.enterAll rest).1,
        (((enter name value).run.run c).2.enterAll rest).2) := rfl

theorem enterAll_append (c : Config) (before after : List (String × Json)) :
    c.enterAll (before ++ after) =
      ((c.enterAll before).1 ++ ((c.enterAll before).2.enterAll after).1,
        ((c.enterAll before).2.enterAll after).2) := by
  induction before generalizing c with
  | nil => rfl
  | cons entry before ih =>
    obtain ⟨name, value⟩ := entry
    rw [List.cons_append, enterAll_cons, enterAll_cons, ih]
    rfl

theorem lastEntered?_cons (r : RuleName) (name : String) (value : Json)
    (outcome : Except ConfigError Unit) (rest : List (String × Json))
    (outcomes : List (Except ConfigError Unit)) :
    lastEntered? r ((name, value) :: rest) (outcome :: outcomes) =
      (lastEntered? r rest outcomes).or
        (if name == r.text && outcome.isOk then some value else none) := by
  unfold lastEntered?
  rw [List.zip_cons_cons, List.reverse_cons, List.find?_append, Option.map_or, List.find?_singleton]
  congr 1
  split
  · rfl
  · rfl

/-- The last entry for a rule that was not refused settles it. -/
theorem setting_enterAll (c : Config) (entries : List (String × Json)) (r : RuleName) :
    match lastEntered? r entries (c.enterAll entries).1 with
    | some value => r.Gives value ((c.enterAll entries).2.setting r)
    | none => (c.enterAll entries).2.setting r = c.setting r := by
  induction entries generalizing c with
  | nil => rfl
  | cons entry rest ih =>
    obtain ⟨name, value⟩ := entry
    rcases enter_cases name value with ⟨e, refused⟩ | ⟨s, setting, named, given, written⟩
    · rw [enterAll_cons, refused]
      dsimp only
      rw [lastEntered?_cons, Except.isOk, Except.toBool, Bool.and_false, if_neg Bool.false_ne_true,
        Option.or_none]
      exact ih c
    · rw [enterAll_cons, written]
      dsimp only
      rw [lastEntered?_cons, Except.isOk, Except.toBool, Bool.and_true]
      have later := ih (c.put s setting)
      cases found : lastEntered? r rest ((c.put s setting).enterAll rest).1 with
      | some last =>
        rw [found] at later
        exact later
      | none =>
        rw [found] at later
        dsimp only at later
        rw [Option.none_or]
        by_cases same : s = r
        · subst same
          rw [if_pos (beq_iff_eq.mpr named.symm)]
          dsimp only
          rw [later, setting_put_same]
          exact given
        · rw [if_neg fun text => same (RuleName.text_injective (named.trans (beq_iff_eq.mp text)))]
          dsimp only
          rw [later, setting_put_other _ same]

theorem enterAll_swap (c : Config) {a b : String × Json} (different : a.1 ≠ b.1)
    (rest : List (String × Json)) :
    (c.enterAll (a :: b :: rest)).2 = (c.enterAll (b :: a :: rest)).2 := by
  obtain ⟨name, value⟩ := a
  obtain ⟨name', value'⟩ := b
  simp only [enterAll_cons]
  rcases enter_cases name value with ⟨e, refused⟩ | ⟨r, setting, named, _, written⟩
  · simp only [refused]
  · rcases enter_cases name' value' with ⟨e', refused'⟩ | ⟨s, setting', named', _, written'⟩
    · simp only [refused']
    · have distinct : r ≠ s := by
        rintro rfl
        exact different (named.symm.trans named')
      simp only [written, written', put_comm c distinct]

/-- An entry that is refused leaves the configuration as it was, and any other changes the setting of
the rule that it names and no more. In the end every rule has the setting that the last entry for it
stands for, of those not refused, or the one it had before all of them. So entries under different
names may change places. -/
theorem enterAll_last_write_wins (c : Config) :
    (∀ entries name value,
      let here := (c.enterAll entries).2
      let step := (enter name value).run.run here
      c.enterAll (entries ++ [(name, value)]) = ((c.enterAll entries).1 ++ [step.1], step.2) ∧
        (∀ e, step.1 = .error e → step.2 = here) ∧
        (step.1 = .ok () → ∃ r : RuleName, r.text = name ∧
          ∀ s, s ≠ r → step.2.setting s = here.setting s)) ∧
    (∀ entries (r : RuleName),
      match lastEntered? r entries (c.enterAll entries).1 with
      | some value => r.Gives value ((c.enterAll entries).2.setting r)
      | none => (c.enterAll entries).2.setting r = c.setting r) ∧
    ∀ (before after : List (String × Json)) (a b : String × Json), a.1 ≠ b.1 →
      (c.enterAll (before ++ a :: b :: after)).2 = (c.enterAll (before ++ b :: a :: after)).2 := by
  refine ⟨?_, c.setting_enterAll, ?_⟩
  · intro entries name value here step
    refine ⟨by rw [enterAll_append]; rfl, ?_, ?_⟩
    · intro e failed
      rcases enter_cases name value with ⟨_, refused⟩ | ⟨_, _, _, _, written⟩
      · exact congrArg Prod.snd (refused here)
      · rw [show step = _ from written here] at failed
        cases failed
    · intro done
      rcases enter_cases name value with ⟨_, refused⟩ | ⟨r, setting, named, _, written⟩
      · rw [show step = _ from refused here] at done
        cases done
      · refine ⟨r, named, ?_⟩
        intro s other
        rw [show step = _ from written here]
        exact setting_put_other _ (Ne.symm other)
  · intro before after a b different
    rw [enterAll_append, enterAll_append]
    exact enterAll_swap _ different after

/-- Space in braces is asked for in a way that there is not. -/
def unknownSpacing : Json := .object [("spacing", .string "sometimes")]

/-- Two entries that are refused stand behind one for the same rule. -/
def refusedEntries : List (String × Json) := [
  ("jsx-curly-spacing", .object [("spacing", .string "never")]),
  ("jsx-curly-spacing", unknownSpacing),
  ("jsx-curly", .bool true),
  ("jsx-key", .null)]

theorem enterAll_last_write_wins_of_refusedEntries :
    (recommended.enterAll refusedEntries).1.map Except.isOk = [true, false, false, true] ∧
      RuleName.Gives .jsxCurlySpacing (.object [("spacing", .string "never")])
        ((recommended.enterAll refusedEntries).2.setting .jsxCurlySpacing) ∧
      (recommended.enterAll refusedEntries).2.setting .jsxNoBind = recommended.setting .jsxNoBind ∧
      (∃ e, ((enter "jsx-curly-spacing" unknownSpacing).run.run recommended).1 = .error e ∧
        ((enter "jsx-curly-spacing" unknownSpacing).run.run recommended).2 = recommended) ∧
      "jsx-curly-spacing" ≠ "jsx-key" ∧
      (recommended.enterAll [("jsx-curly-spacing", .bool true), ("jsx-key", .null)]).2 =
        (recommended.enterAll [("jsx-key", .null), ("jsx-curly-spacing", .bool true)]).2 := by
  obtain ⟨steps, settled, swapped⟩ := enterAll_last_write_wins recommended
  obtain ⟨_, unchanged, _⟩ := steps [] "jsx-curly-spacing" unknownSpacing
  exact ⟨rfl, settled refusedEntries .jsxCurlySpacing, settled refusedEntries .jsxNoBind,
    ⟨_, rfl, unchanged _ rfl⟩, by decide,
    swapped [] [] ("jsx-curly-spacing", .bool true) ("jsx-key", .null) (by decide)⟩

end Config

end JsxCheck
