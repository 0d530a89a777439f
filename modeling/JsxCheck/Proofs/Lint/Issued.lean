import JsxCheck.Proofs.Lint.Passes

/-!
Reports agree with the configuration and with what is said of the rules.

Whatever is reported, in either pass, was made by one rule that runs: it carries the name of the rule,
is a warning, and suggests fixes only if the rule is said to have some. `lint_issued_by_enabled` says so
of the report on a text, with what follows for its counts.
-/
namespace JsxCheck

/-- A report of warnings counts nothing else. -/
theorem Report.counts_of_warnings {r : Report} (warnings : ∀ d ∈ r.diagnostics, d.severity = .warning) :
    r.errorCount = 0 ∧ r.hasErrors = false ∧ r.warningCount = r.diagnostics.length := by
  refine ⟨List.countP_eq_zero.mpr ?_, List.any_eq_false.mpr ?_, List.countP_eq_length.mpr ?_⟩
  all_goals
    intro d member
    rw [warnings d member]
    decide

namespace Config

variable {c : Config} {doc : Document} {root : Node} {d : Diagnostic}

theorem mem_enabledRules {r : RuleName} : r ∈ c.enabledRules ↔ c.isEnabled r = true := by
  rw [enabledRules, List.mem_filter]
  exact and_iff_right r.mem_all

theorem exists_issued_of_check (reported : d ∈ (c.check doc root).diagnostics) :
    ∃ r ∈ c.enabledRules, r.Issued d := by
  obtain ⟨r, v, _, said⟩ := mem_check_iff.mp reported
  obtain ⟨options, set, made⟩ := mem_say_iff.mp said
  refine ⟨r, mem_enabledRules.mpr ?_, r.check_issues options doc v v.position d made⟩
  rw [isEnabled, set]
  rfl

theorem exists_issued_of_checkResolved {resolver : Resolver}
    (reported : d ∈ (c.checkResolved resolver doc root).diagnostics) :
    ∃ r ∈ c.enabledRules, r.Issued d := by
  rw [checkResolved_eq_firstSaid] at reported
  obtain ⟨v, _, said⟩ := List.mem_flatMap.mp ((firstSaid_sublist _).mem reported)
  obtain ⟨r, runs, made⟩ := List.mem_flatMap.mp said
  exact ⟨r, mem_enabledRules.mpr (List.mem_filter.mp runs).2,
    r.checkResolved_issues resolver doc _ v d made⟩

/-- What a rule that runs says when names can be resolved has its place in the second report. -/
theorem place_mem_checkResolved {resolver : Resolver} {v : Visit} {r : RuleName}
    (enabled : r ∈ c.enabledRules) (visited : v ∈ root.visits)
    (said : d ∈ r.checkResolved resolver doc v.classMethods v) :
    d.place ∈ (c.checkResolved resolver doc root).diagnostics.map Diagnostic.place := by
  have resolves : r ∈ RuleName.resolving := by
    cases r with
    | jsxNoMethodRef => decide
    | reactPureComponentsHaveSimpleAttributes => decide
    | _ => cases said
  have runs := List.mem_filter.mpr ⟨resolves, mem_enabledRules.mp enabled⟩
  rw [checkResolved_eq_firstSaid, mem_places_firstSaid]
  exact List.mem_map_of_mem
    (List.mem_flatMap.mpr ⟨v, visited, List.mem_flatMap.mpr ⟨r, runs, said⟩⟩)

end Config

/-- A text that parses, whatever the parser, is linted. Every diagnostic of the report carries the name of
a rule that runs, is a warning, and has fixes only if that rule is said to have some. So no errors are counted and everything
is a warning. Nothing is left out either: whatever a rule that runs says about a node has its rule and
span in the report. -/
theorem lint_issued_by_enabled {ε : Type} {parse : Source → Dialect → Except ε Program}
    {text filename : String} {program : Program} (c : Config)
    (parsed : parse ⟨text⟩ (FileName.dialect filename) = .ok program) :
    let doc := Document.ofText text (FileName.dialect filename) (some filename) program.comments
    ∃ report, lintWith parse text filename c = .ok report ∧
      (∀ d ∈ report.diagnostics, ∃ r ∈ c.enabledRules,
        d.rule = r.text ∧ d.severity = .warning ∧ (d.fixes ≠ [] → r.hasFix = true)) ∧
      report.errorCount = 0 ∧ report.hasErrors = false ∧
      report.warningCount = report.diagnostics.length ∧
      ∀ r ∈ c.enabledRules, ∀ v ∈ program.root.visits, ∀ d,
        d ∈ c.say doc v v.position r ∨
          d ∈ r.checkResolved (.ofProgram program.root) doc v.classMethods v →
        (d.rule, d.span) ∈ report.diagnostics.map fun e => (e.rule, e.span) := by
  intro doc
  obtain ⟨report, linted⟩ := exists_lint_of_parse c parsed
  refine ⟨report, linted, ?_⟩
  have made : ∀ d ∈ report.diagnostics, ∃ r ∈ c.enabledRules, r.Issued d := by
    intro d reported
    rcases (mem_lint_iff parsed linted).mp reported with first | second
    · exact Config.exists_issued_of_check first
    · exact Config.exists_issued_of_checkResolved second
  obtain ⟨errors, erroneous, warnings⟩ := Report.counts_of_warnings (r := report) fun d reported => by
    obtain ⟨r, _, issued⟩ := made d reported
    exact issued.severity
  refine ⟨?_, errors, erroneous, warnings, ?_⟩
  · intro d reported
    obtain ⟨r, enabled, issued⟩ := made d reported
    exact ⟨r, enabled, issued.rule, issued.severity, issued.fixes⟩
  · rintro r enabled v visited d (said | said)
    · have first := Config.mem_check_iff.mpr ⟨r, v, visited, said⟩
      exact List.mem_map_of_mem ((mem_lint_iff parsed linted).mpr (Or.inl first))
    · obtain ⟨e, second, place⟩ := List.mem_map.mp (Config.place_mem_checkResolved enabled visited said)
      exact List.mem_map.mpr ⟨e, (mem_lint_iff parsed linted).mpr (Or.inr second), place⟩

/-- A text with something to fix and with a method that is handed on. -/
def unclosedMethodText : String := "class S \x7b static f() \x7b\x7d \x7d <B a=\x7bS.f\x7d></B>"

/-- One rule of each pass runs, the first of which has fixes. -/
def closingAndMethods : Config := (Config.empty.enable .jsxSelfClose).enable .jsxNoMethodRef

set_option maxRecDepth 100000 in
theorem lint_issued_by_enabled_of_unclosedMethodText :
    ∃ program, Program.parse ⟨unclosedMethodText⟩ (FileName.dialect "a.tsx") = .ok program ∧
      closingAndMethods.enabledRules = [.jsxNoMethodRef, .jsxSelfClose] ∧
      ∃ report, lint unclosedMethodText "a.tsx" closingAndMethods = .ok report ∧
        (RuleName.jsxSelfClose.text, ⟨26, 41⟩) ∈ report.diagnostics.map (fun d => (d.rule, d.span)) ∧
        (RuleName.jsxNoMethodRef.text, ⟨32, 35⟩) ∈
          report.diagnostics.map (fun d => (d.rule, d.span)) ∧
        (∀ d ∈ report.diagnostics, ∃ r ∈ [.jsxNoMethodRef, .jsxSelfClose],
          d.rule = RuleName.text r ∧ d.severity = .warning ∧ (d.fixes ≠ [] → r.hasFix = true)) ∧
        report.errorCount = 0 ∧ report.warningCount = report.diagnostics.length := by
  have parsed : ∃ program,
      Program.parse ⟨unclosedMethodText⟩ (FileName.dialect "a.tsx") = .ok program ∧
        let doc := Document.ofText unclosedMethodText (FileName.dialect "a.tsx") (some "a.tsx")
          program.comments
        (∃ v ∈ program.root.visits, ∃ d ∈ closingAndMethods.say doc v v.position .jsxSelfClose,
          d.fixes ≠ [] ∧ d.rule = RuleName.jsxSelfClose.text ∧ d.span = ⟨26, 41⟩) ∧
        ∃ v ∈ program.root.visits, ∃ d ∈ RuleName.jsxNoMethodRef.checkResolved
            (.ofProgram program.root) doc v.classMethods v,
          d.rule = RuleName.jsxNoMethodRef.text ∧ d.span = ⟨32, 35⟩ :=
    Program.exists_parse (by decide +kernel)
  obtain ⟨program, parse, ⟨v, visited, d, said, _, rule, span⟩, w, visited', e, said', rule', span'⟩ :=
    parsed
  obtain ⟨report, linted, issued, errors, _, warnings, complete⟩ :=
    lint_issued_by_enabled closingAndMethods parse
  have enabled : closingAndMethods.enabledRules = [.jsxNoMethodRef, .jsxSelfClose] := by decide
  rw [enabled] at issued
  have first := complete .jsxSelfClose (by decide) v visited d (Or.inl said)
  have second := complete .jsxNoMethodRef (by decide) w visited' e (Or.inr said')
  rw [rule, span] at first
  rw [rule', span'] at second
  exact ⟨program, parse, enabled, report, linted, first, second, issued, errors, warnings⟩

end JsxCheck
