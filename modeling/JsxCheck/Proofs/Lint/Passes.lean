import JsxCheck.Lint.Basic
import JsxCheck.Proofs.Lint.Isolation
import JsxCheck.Proofs.Lint.Reporter
import JsxCheck.Proofs.Report.Merge
import JsxCheck.Rule.Metadata

/-!
Linting a text and both passes over its program.

Linting knows the name of the file and leaves the second pass out when no rule needs it. Only
`jsx-named-prop-interface` looks at the name of a file (`check_path`), and the second pass has nothing
to add when it is left out. `lint_both_passes` says that the reports agree up to their order.
-/
namespace JsxCheck

/-! ### What rules ask about a document -/

namespace Rule

theorem unsorted_path (compare : String → String → Ordering) (doc : Document)
    (path : Option String) (previous : String) (members : List Node) :
    PropInterfaces.unsorted compare { doc with path } previous members =
      PropInterfaces.unsorted compare doc previous members := by
  induction members generalizing previous with
  | nil => rfl
  | cons member rest ih =>
    simp only [PropInterfaces.unsorted, ih]
    rfl

end Rule

namespace RuleName

/-- One rule looks at the path of a file. -/
theorem check_path {r : RuleName} (other : r ≠ .jsxNamedPropInterface) (options : r.Options)
    (doc : Document) (path : Option String) (v : Visit) (position : Position) :
    r.check options { doc with path } v position = r.check options doc v position := by
  cases r with
  | jsxNamedPropInterface => exact absurd rfl other
  | jsxPropSorting => simp only [check, Rule.propSorting, Rule.unsorted_path]
  | _ => rfl

theorem not_speaking_of_requiresTypeInfo {r : RuleName} (resolves : r.requiresTypeInfo = true) :
    r ∉ speakingOrder := by
  revert resolves
  cases r <;> decide

end RuleName

namespace Config

variable {c : Config}

theorem check_path (off : c.isEnabled .jsxNamedPropInterface = false) (doc : Document)
    (path : Option String) (root : Node) : c.check { doc with path } root = c.check doc root := by
  have said : ∀ (v : Visit) (position : Position),
      c.checkVisit { doc with path } v position = c.checkVisit doc v position := by
    intro v position
    rw [checkVisit_eq, checkVisit_eq]
    refine List.flatMap_congr fun r _ => ?_
    unfold say
    split
    · rename_i options on
      refine RuleName.check_path ?_ options doc path v position
      rintro rfl
      rw [isEnabled, on] at off
      cases off
    · rfl
  rw [check, check, Walk.findings_eq, Walk.findings_eq]
  exact congrArg Report.mk (List.flatMap_congr fun v _ => said v v.position)

theorem checkResolved_ofText (c : Config) (resolver : Resolver) (text : String) (dialect : Dialect)
    (path path' : Option String) (comments comments' : List Span) (root : Node) :
    c.checkResolved resolver (.ofText text dialect path comments) root =
      c.checkResolved resolver (.ofText text dialect path' comments') root := rfl

theorem checkResolved_eq_empty (unneeded : c.needsResolution = false) (resolver : Resolver)
    (doc : Document) (root : Node) : c.checkResolved resolver doc root = ⟨[]⟩ := by
  have none : RuleName.resolving.filter c.isEnabled = [] := by
    obtain ⟨first, second⟩ := Bool.or_eq_false_iff.mp unneeded
    simp [RuleName.resolving, first, second]
  have silent : root.visits.flatMap (c.checkResolvedVisit resolver doc) = [] := by
    refine List.flatMap_eq_nil_iff.mpr fun v _ => ?_
    rw [checkResolvedVisit, checkResolvedAt, none, List.flatMap_nil]
  have empty := c.checkResolved_eq_firstSaid resolver doc root
  rw [silent] at empty
  exact congrArg Report.mk empty

theorem rule_ne_of_requiresTypeInfo {doc : Document} {root : Node} {d : Diagnostic}
    (said : d ∈ (c.check doc root).diagnostics) {r : RuleName} (resolves : r.requiresTypeInfo = true) :
    d.rule ≠ r.text := by
  have absent := RuleName.not_speaking_of_requiresTypeInfo resolves
  exact silent_iff.mpr (fun v _ => say_eq_nil_of_not_speaking absent c doc v v.position) d said

/-- The second pass reports for rules that resolve names. -/
theorem exists_resolving_of_checkResolved {resolver : Resolver} {doc : Document} {root : Node}
    {d : Diagnostic} (said : d ∈ (c.checkResolved resolver doc root).diagnostics) :
    ∃ r : RuleName, r.requiresTypeInfo = true ∧ d.rule = r.text := by
  rw [checkResolved_eq_firstSaid] at said
  obtain ⟨v, _, told⟩ := List.mem_flatMap.mp ((firstSaid_sublist _).mem said)
  obtain ⟨r, runs, told⟩ := List.mem_flatMap.mp told
  have resolves : ∀ r ∈ RuleName.resolving, r.requiresTypeInfo = true := by decide
  exact ⟨r, resolves r (List.mem_filter.mp runs).1, (r.checkResolved_issues resolver doc _ v d told).rule⟩

theorem checkBoth_perm (c : Config) (doc : Document) (root : Node) :
    (c.checkBoth doc root).diagnostics.Perm
      ((c.check doc root).diagnostics ++ (c.checkResolved (.ofProgram root) doc root).diagnostics) := by
  rw [checkBoth, Report.merge_eq_sort]
  exact Report.sort_perm _

end Config

/-! ### Both ways of linting -/

variable {ε : Type} {parse : Source → Dialect → Except ε Program} {text filename : String}
  {program : Program}

theorem lint_eq_of_parse (c : Config)
    (parsed : parse ⟨text⟩ (FileName.dialect filename) = .ok program) :
    lintWith parse text filename c = .ok (
      let doc := Document.ofText text (FileName.dialect filename) (some filename) program.comments
      if c.needsResolution then c.checkBoth doc program.root else c.check doc program.root) := by
  unfold lintWith
  simp only [parsed, bind, Except.bind]
  split <;> rfl

theorem exists_lint_of_parse (c : Config)
    (parsed : parse ⟨text⟩ (FileName.dialect filename) = .ok program) :
    ∃ report, lintWith parse text filename c = .ok report :=
  ⟨_, lint_eq_of_parse c parsed⟩

theorem mem_lint_iff {c : Config} {report : Report} {d : Diagnostic}
    (parsed : parse ⟨text⟩ (FileName.dialect filename) = .ok program)
    (linted : lintWith parse text filename c = .ok report) :
    let doc := Document.ofText text (FileName.dialect filename) (some filename) program.comments
    d ∈ report.diagnostics ↔ d ∈ (c.check doc program.root).diagnostics ∨
      d ∈ (c.checkResolved (.ofProgram program.root) doc program.root).diagnostics := by
  intro doc
  obtain rfl := Except.ok.inj (linted.symm.trans (lint_eq_of_parse c parsed))
  cases needed : c.needsResolution with
  | true =>
    change d ∈ (c.checkBoth _ _).diagnostics ↔ _
    rw [(c.checkBoth_perm _ _).mem_iff, List.mem_append]
  | false =>
    rw [Config.checkResolved_eq_empty needed]
    exact (or_iff_left List.not_mem_nil).symm

/-- The second pass reports nothing for a rule that resolves no names. -/
theorem filter_lint_perm {c : Config} {report : Report} {r : RuleName}
    (parsed : parse ⟨text⟩ (FileName.dialect filename) = .ok program)
    (linted : lintWith parse text filename c = .ok report) (walks : r.requiresTypeInfo = false) :
    (report.diagnostics.filter (·.rule == r.text)).Perm
      ((c.check (.ofText text (FileName.dialect filename) (some filename) program.comments)
        program.root).diagnostics.filter (·.rule == r.text)) := by
  obtain rfl := Except.ok.inj (linted.symm.trans (lint_eq_of_parse c parsed))
  cases needed : c.needsResolution with
  | false => exact List.Perm.refl _
  | true =>
    have silent : ∀ doc, (c.checkResolved (.ofProgram program.root) doc
        program.root).diagnostics.filter (·.rule == r.text) = [] := by
      intro doc
      rw [List.filter_eq_nil_iff]
      intro d resolved named
      obtain ⟨s, resolves, rule⟩ := Config.exists_resolving_of_checkResolved resolved
      obtain rfl := RuleName.text_injective (rule.symm.trans (beq_iff_eq.mp named))
      rw [walks] at resolves
      cases resolves
    have both := (c.checkBoth_perm (.ofText text (FileName.dialect filename) (some filename)
      program.comments) program.root).filter (·.rule == r.text)
    rw [List.filter_append, silent, List.append_nil] at both
    exact both

/-- A text that parses, whatever the parser, is linted. Where no rule looks at the name of the file, the
report is that of both passes over the program when the second pass is needed, and otherwise both passes
report its stable order. Whatever the rules, the report holds what the two passes say and no more; the first
pass says nothing under the name of a rule that resolves names, and nor does the report when none
runs. -/
theorem lint_both_passes (c : Config)
    (parsed : parse ⟨text⟩ (FileName.dialect filename) = .ok program) :
    let doc (path : Option String) (comments : List Span) : Document :=
      .ofText text (FileName.dialect filename) path comments
    let first := c.check (doc (some filename) program.comments) program.root
    ∃ report, lintWith parse text filename c = .ok report ∧
      (c.isEnabled .jsxNamedPropInterface = false →
        let both := c.checkBoth (doc none program.comments) program.root
        (c.needsResolution = true → report = both) ∧
          (c.needsResolution = false → ∀ sorted, Report.IsSortOf sorted report ↔ sorted = both)) ∧
      (∀ path comments, report.diagnostics.Perm (first.diagnostics ++
        (c.checkResolved (.ofProgram program.root) (doc path comments) program.root).diagnostics)) ∧
      (∀ d ∈ first.diagnostics, ∀ r : RuleName, r.requiresTypeInfo = true → d.rule ≠ r.text) ∧
      (c.needsResolution = false →
        ∀ d ∈ report.diagnostics, ∀ r : RuleName, r.requiresTypeInfo = true → d.rule ≠ r.text) := by
  intro doc first
  have named : ∀ d ∈ first.diagnostics, ∀ r : RuleName, r.requiresTypeInfo = true → d.rule ≠ r.text :=
    fun d said r resolves => Config.rule_ne_of_requiresTypeInfo said resolves
  refine ⟨_, lint_eq_of_parse c parsed, ?_⟩
  cases needed : c.needsResolution with
  | true =>
    refine ⟨?_, ?_, named, nofun⟩
    · intro off
      refine ⟨fun _ => ?_, nofun⟩
      exact congrArg (Report.merge · _)
        (Config.check_path off (doc none program.comments) (some filename) program.root)
    · intro path comments
      rw [c.checkResolved_ofText _ text _ path (some filename) comments program.comments]
      exact c.checkBoth_perm (doc (some filename) program.comments) program.root
  | false =>
    have empty : ∀ other, c.checkResolved (.ofProgram program.root) other program.root = ⟨[]⟩ :=
      fun other => Config.checkResolved_eq_empty needed _ other program.root
    refine ⟨?_, ?_, named, fun _ => named⟩
    · intro off
      refine ⟨nofun, fun _ sorted => ?_⟩
      have both : c.checkBoth (doc none program.comments) program.root = first.sort := by
        rw [Config.checkBoth, empty, Report.merge_eq_sort, List.append_nil,
          ← Config.check_path off (doc none program.comments) (some filename) program.root]
        rfl
      refine ⟨fun isSort => ?_, fun same => ?_⟩
      · rw [both]
        exact isSort.unique first.sort_isSortOf
      · rw [same, both]
        exact first.sort_isSortOf
    · intro path comments
      rw [empty, List.append_nil]
      exact List.Perm.refl _

/-- A text with something for each pass to report. -/
def methodReferenceText : String :=
  "class S \x7b static f() \x7b\x7d \x7d <B a=\x7bS.f\x7d b=\x7b() => 0\x7d />"

/-- One rule of each pass runs. -/
def lambdasAndMethods : Config := (Config.empty.enable .jsxNoLambda).enable .jsxNoMethodRef

set_option maxRecDepth 100000 in
theorem lint_both_passes_of_methodReferenceText :
    ∃ program,
      Program.parse ⟨methodReferenceText⟩ (FileName.dialect "a.tsx") = .ok program ∧
      lambdasAndMethods.isEnabled .jsxNamedPropInterface = false ∧
      lambdasAndMethods.needsResolution = true ∧
      ∃ report, lint methodReferenceText "a.tsx" lambdasAndMethods = .ok report ∧
        report = lambdasAndMethods.checkBoth
          (.ofText methodReferenceText (FileName.dialect "a.tsx") none program.comments)
          program.root ∧
        report.diagnostics.length = 2 := by
  have parsed : ∃ program,
      Program.parse ⟨methodReferenceText⟩ (FileName.dialect "a.tsx") = .ok program ∧
        ((lambdasAndMethods.check (.ofText methodReferenceText (FileName.dialect "a.tsx")
            (some "a.tsx") program.comments) program.root).diagnostics ++
          (lambdasAndMethods.checkResolved (.ofProgram program.root) (.ofText methodReferenceText
            (FileName.dialect "a.tsx") none []) program.root).diagnostics).length = 2 :=
    Program.exists_parse (by decide +kernel)
  obtain ⟨program, parse, two⟩ := parsed
  obtain ⟨report, linted, agrees, perm, _⟩ := lint_both_passes lambdasAndMethods parse
  exact ⟨program, parse, rfl, rfl, report, linted, (agrees rfl).1 rfl,
    (perm none []).length_eq.trans two⟩

end JsxCheck
