import JsxCheck.Proofs.Lint.MethodRefs
import JsxCheck.Proofs.Lint.Passes

/-!
Elements of lists without a key.

An element of a list stands in an array literal, or is what a callback of `map` gives back.
`lint_missing_keys_iff` says that the elements of lists that are reported are those without a key, and
those whose key stands in quotes in a spread.
-/
namespace JsxCheck

open Node

/-- An element that stands in an array literal, or that a callback of `map` gives back in any number of
parentheses. -/
def Node.IsListElement (root n : Node) : Prop :=
  n.kind = .expr .jsxElement ∧
    ((∃ array ∈ root.preorder, array.form? = some .array ∧ n ∈ array.children) ∨
      ∃ call ∈ root.preorder, call.form? = some .call ∧ ∃ callback value,
        call.IsMapCallback callback ∧ callback.Returns value ∧ value.Parenthesizes n)

/-- The element is given a key by spreads alone, in which it stands in quotes. -/
def Node.QuotesKey (n : Node) : Prop :=
  n.GivesKey (·.Spells "key") ∧ ¬ n.GivesKey (·.kind = .name "key")

section Lists

variable {root n : Node} {d : Diagnostic}

/-- What is said of keys in a program is said of the elements of its lists. -/
theorem Rule.mem_keys_iff : (∃ v ∈ root.visits,
      d ∈ v.onForm .array keysOfArray ++ v.onForm .call keyOfMapCall) ↔
    ∃ n, root.IsListElement n ∧ d ∈ Keys.missing n := by
  simp only [List.mem_append, Visit.mem_onForm_iff]
  constructor
  · rintro ⟨v, visited, ⟨form, said⟩ | ⟨form, said⟩⟩
    · obtain ⟨n, child, kind, said⟩ := mem_keysOfArray_iff.mp said
      exact ⟨n, ⟨kind, Or.inl ⟨v.node, Visit.node_mem_preorder visited, form, child⟩⟩, said⟩
    · obtain ⟨callback, value, n, handed, returned, wrapped, kind, said⟩ := mem_keyOfMapCall_iff.mp said
      exact ⟨n, ⟨kind, Or.inr ⟨v.node, Visit.node_mem_preorder visited, form, callback, value, handed,
        returned, wrapped⟩⟩, said⟩
  · rintro ⟨n, ⟨kind, ⟨array, inside, form, child⟩ |
      ⟨call, inside, form, callback, value, handed, returned, wrapped⟩⟩, said⟩
    · obtain ⟨v, visited, rfl⟩ := List.mem_map.mp inside
      exact ⟨v, visited, Or.inl ⟨form, mem_keysOfArray_iff.mpr ⟨n, child, kind, said⟩⟩⟩
    · obtain ⟨v, visited, rfl⟩ := List.mem_map.mp inside
      exact ⟨v, visited, Or.inr ⟨form, mem_keyOfMapCall_iff.mpr
        ⟨callback, value, n, handed, returned, wrapped, kind, said⟩⟩⟩

theorem Node.IsListElement.mem_preorder (listed : root.IsListElement n) : n ∈ root.preorder := by
  obtain ⟨_, ⟨array, inside, _, child⟩ |
    ⟨call, inside, _, callback, value, handed, returned, wrapped⟩⟩ := listed
  · exact preorder_trans (mem_preorder_of_child child) inside
  · exact preorder_trans (preorder_trans (preorder_trans wrapped.mem_preorder returned.mem_preorder)
      handed.mem_preorder) inside

/-- A key that is no plain name is not there in either spelling, or stands in quotes. -/
theorem Node.not_givesKey_iff : ¬ n.GivesKey (·.kind = .name "key") ↔
    ¬ n.GivesKey (·.Spells "key") ∨ n.QuotesKey := by
  have plain : n.GivesKey (·.kind = .name "key") → n.GivesKey (·.Spells "key") := by
    rintro ⟨e, view, named | ⟨item, listed, object, spread, form, property, inside, isProperty, key,
      first, name⟩⟩
    · exact ⟨e, view, Or.inl named⟩
    · exact ⟨e, view, Or.inr ⟨item, listed, object, spread, form, property, inside, isProperty, key,
        first, Or.inl name⟩⟩
  unfold QuotesKey
  tauto

end Lists

/-- A text that parses, whatever the parser, is linted. Where keys of elements are asked for, each element
of a list that has none is reported, in a report that holds nothing else of the rule but the elements
whose key stands in quotes in a spread. No element is reported twice. -/
theorem lint_missing_keys_iff {ε : Type} {parse : Source → Dialect → Except ε Program}
    {text filename : String} {program : Program} (c : Config)
    (parsed : parse ⟨text⟩ (FileName.dialect filename) = .ok program)
    (formed : program.root.WellFormed ⟨text⟩) (enabled : c.isEnabled .jsxKey = true) :
    ∃ report, lintWith parse text filename c = .ok report ∧
      (∀ d, (d ∈ report.diagnostics ∧ d.rule = RuleName.jsxKey.text) ↔
        ∃ n, program.root.IsListElement n ∧ (¬ n.GivesKey (·.Spells "key") ∨ n.QuotesKey) ∧
          d = RuleName.jsxKey.warning n.span "Missing \"key\" prop for element.") ∧
      (spansOf (report.diagnostics.filter (·.rule == RuleName.jsxKey.text))).Nodup := by
  obtain ⟨report, linted⟩ := exists_lint_of_parse c parsed
  obtain ⟨options, set⟩ := Option.isSome_iff_exists.mp enabled
  have said : ∀ v : Visit, c.say (.ofText text (FileName.dialect filename) (some filename)
      program.comments) v v.position .jsxKey =
        v.onForm .array Rule.keysOfArray ++ v.onForm .call Rule.keyOfMapCall := by
    intro v
    rw [Config.say, set]
    rfl
  have first := filter_lint_perm (r := .jsxKey) parsed linted rfl
  rw [Config.filter_check_eq_flatMap, List.flatMap_congr fun v _ => said v] at first
  refine ⟨report, linted, fun d => ?_, ?_⟩
  · have filtered : (d ∈ report.diagnostics ∧ d.rule = RuleName.jsxKey.text) ↔
        ∃ n, program.root.IsListElement n ∧ d ∈ Rule.Keys.missing n := by
      rw [← Rule.mem_keys_iff, ← List.mem_flatMap, ← first.mem_iff, List.mem_filter, beq_iff_eq]
    rw [filtered]
    refine exists_congr fun n => and_congr_right fun listed => ?_
    obtain ⟨e, view⟩ := (formed.formed listed.mem_preorder).exists_element?
      (by rw [form?, listed.1])
    rw [Rule.Keys.mem_missing_iff view, not_givesKey_iff]
  · exact ((first.map Diagnostic.span).nodup_iff).mpr (Rule.jsxKey_once formed)

/-- A key in quotes, an element with a key, and one without that a callback gives back. -/
def listsText : String :=
  "[<a \x7b...\x7b\"key\": 1\x7d\x7d />, <b key=\x7b2\x7d />, c.map(d => (<e />))];"

set_option maxRecDepth 100000 in
set_option synthInstance.maxSize 1000 in
theorem lint_missing_keys_iff_of_listsText :
    ∃ program, Program.parse ⟨listsText⟩ (FileName.dialect "a.tsx") = .ok program ∧
      program.root.WellFormed ⟨listsText⟩ ∧
      ∃ report, lint listsText "a.tsx" (Config.empty.enable .jsxKey) = .ok report ∧
        report.diagnostics.map Diagnostic.span = [⟨1, 22⟩, ⟨51, 56⟩] ∧
        ∃ n, program.root.IsListElement n ∧ n.QuotesKey ∧
          RuleName.jsxKey.warning n.span "Missing \"key\" prop for element." ∈ report.diagnostics := by
  have parsed : ∃ program, Program.parse ⟨listsText⟩ (FileName.dialect "a.tsx") = .ok program ∧
      program.root.WellFormed ⟨listsText⟩ ∧
      ((Config.empty.enable .jsxKey).check (.ofText listsText (FileName.dialect "a.tsx")
        (some "a.tsx") program.comments) program.root).diagnostics.map Diagnostic.span =
          [⟨1, 22⟩, ⟨51, 56⟩] ∧
      ∃ array ∈ program.root.preorder, array.form? = some .array ∧ ∃ n ∈ array.children,
        n.kind = .expr .jsxElement ∧ ∃ e ∈ n.element?, Rule.Keys.hasKey e.opening = false ∧
          ∃ item ∈ e.opening.items, ∃ object ∈ item.argument?, object.kind = .expr .object ∧
            ∃ property ∈ object.children, property.kind = .property ⟨false, false, false⟩ ∧
              ∃ key ∈ property.children.head?, key.kind = .expr (.string "key") :=
    Program.exists_parse (by decide +kernel)
  obtain ⟨program, parse, formed, spans, array, inside, form, n, child, kind, e, view, keyless, item,
    isItem, object, spread, isObject, property, isPart, isProperty, key, first, quoted⟩ := parsed
  have listed : program.root.IsListElement n := ⟨kind, Or.inl ⟨array, inside, form, child⟩⟩
  have quotes : n.QuotesKey := by
    refine ⟨⟨e, view, Or.inr ⟨item, isItem, object, spread, isObject, property, isPart,
      ⟨_, isProperty⟩, key, first, Or.inr quoted⟩⟩, fun plain => ?_⟩
    rw [(Rule.Keys.hasKey_iff view).mpr plain] at keyless
    cases keyless
  obtain ⟨report, linted, reported, _⟩ :=
    lint_missing_keys_iff (Config.empty.enable .jsxKey) parse formed rfl
  refine ⟨program, parse, formed, report, linted, ?_, n, listed, quotes,
    ((reported _).mpr ⟨n, listed, Or.inr quotes, rfl⟩).1⟩
  obtain rfl := Except.ok.inj (linted.symm.trans (lint_eq_of_parse _ parse))
  exact spans

end JsxCheck
