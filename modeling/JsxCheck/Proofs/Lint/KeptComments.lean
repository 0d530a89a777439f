import JsxCheck.Proofs.Lint.Sliceable
import JsxCheck.Proofs.Rule.KeptComments

/-!
Line comments in front of code.

A fix that keeps a line comment and drops the end of its line turns the code behind it into a comment.
`lint_keeps_no_lineComment_iff` says which programs are spared by the two rules that remove space: those
without a line comment around `=`, and without one in braces whose line ends otherwise than with a line
feed.
-/
namespace JsxCheck

open Node

namespace Config

variable {c : Config} {doc : Document} {root : Node}

theorem mem_check_of_rule_iff {r : RuleName} {d : Diagnostic} :
    (d ∈ (c.check doc root).diagnostics ∧ d.rule = r.text) ↔
      ∃ v ∈ root.visits, d ∈ c.say doc v v.position r := by
  have filtered := congrArg (d ∈ ·) (c.filter_check_eq_flatMap doc root r)
  rw [← List.mem_flatMap, ← filtered, List.mem_filter, beq_iff_eq]

/-- Space around `=` is fixed at the cost of code exactly when it is refused and a line comment stands
there. -/
theorem equalsSpacing_keeps_iff (placed : root.WellPlaced doc.source)
    (commented : doc.source.Commented doc.comments)
    (introduced : ∀ n ∈ root.preorder, ∀ o ∈ n.opening?, ∀ a ∈ o.attributes,
      a.Introduced doc.source) :
    (∃ d ∈ (c.check doc root).diagnostics, d.rule = RuleName.jsxEqualsSpacing.text ∧
        d.KeepsLineComment doc) ↔
      c.setting .jsxEqualsSpacing = some ⟨some .never⟩ ∧ ∃ n ∈ root.preorder, ∃ o ∈ n.opening?,
        ∃ a ∈ o.attributes, a.LineCommentAroundEquals doc := by
  have each : ∀ usage, ∀ n ∈ root.preorder, ∀ o ∈ n.opening?, ∀ a ∈ o.attributes,
      (∃ d ∈ Rule.EqualsSpacing.ofAttribute usage doc a, d.KeepsLineComment doc) ↔
        usage = .never ∧ a.LineCommentAroundEquals doc := fun usage n inside o view a listed =>
    Rule.EqualsSpacing.ofAttribute_keeps_iff usage commented
      ((placed.of_mem inside).attribute view listed) (introduced n inside o view a listed)
  constructor
  · rintro ⟨d, reported, rule, keeps⟩
    obtain ⟨v, visited, said⟩ := mem_check_of_rule_iff.mp ⟨reported, rule⟩
    have inside := Visit.node_mem_preorder visited
    obtain ⟨options, set, said⟩ := mem_say_iff.mp said
    obtain ⟨o, view, said⟩ := Visit.mem_onOpening_iff.mp said
    obtain ⟨usage, spacing, a, listed, said⟩ := Rule.EqualsSpacing.mem_equalsSpacing_iff.mp said
    obtain ⟨rfl, held⟩ := (each usage _ inside o view a listed).mp ⟨d, said, keeps⟩
    refine ⟨?_, v.node, inside, o, view, a, listed, held⟩
    rw [set, ← Option.mem_def.mp spacing]
  · rintro ⟨set, n, inside, o, view, a, listed, held⟩
    obtain ⟨v, visited, rfl⟩ := List.mem_map.mp inside
    obtain ⟨d, said, keeps⟩ := (each .never _ inside o view a listed).mpr ⟨rfl, held⟩
    have spaced : d ∈ Rule.equalsSpacing ⟨some .never⟩ doc o :=
      Rule.EqualsSpacing.mem_equalsSpacing_iff.mpr ⟨.never, rfl, a, listed, said⟩
    have told : d ∈ c.say doc v v.position .jsxEqualsSpacing :=
      mem_say_iff.mpr ⟨_, set, Visit.mem_onOpening_iff.mpr ⟨o, view, spaced⟩⟩
    obtain ⟨reported, rule⟩ := mem_check_of_rule_iff.mpr ⟨v, visited, told⟩
    exact ⟨d, reported, rule, keeps⟩

theorem mem_say_curlySpacing_iff {v : Visit} {d : Diagnostic} :
    d ∈ c.say doc v v.position .jsxCurlySpacing ↔ ∃ options, c.setting .jsxCurlySpacing = some options ∧
      ∃ t ∈ v.node.braceTokens? doc, d ∈ Rule.BraceSpacing.check options doc t := by
  have braces : ∀ options : SpacingOptions,
      d ∈ RuleName.jsxCurlySpacing.check options doc v v.position ↔
        ∃ t ∈ v.node.braceTokens? doc, d ∈ Rule.BraceSpacing.check options doc t := by
    intro options
    change d ∈ v.onBraces (Rule.braceSpacing options doc) (Rule.spreadSpacing options doc) ↔ _
    rw [Visit.onBraces_eq, List.mem_flatMap]
    simp only [Option.mem_toList, Option.mem_def]
  rw [mem_say_iff]
  exact exists_congr fun options => and_congr_right fun _ => braces options

/-- Space in braces is fixed at the cost of code exactly when it is refused and a line comment stands
there that no line feed ends. -/
theorem curlySpacing_keeps_iff (placed : root.WellPlaced doc.source)
    (delimited : root.WellDelimited doc.source) (begun : root.WellBegun doc.source)
    (commented : doc.source.Commented doc.comments) :
    (∃ d ∈ (c.check doc root).diagnostics, d.rule = RuleName.jsxCurlySpacing.text ∧
        d.KeepsLineComment doc) ↔
      c.setting .jsxCurlySpacing = some ⟨some .never⟩ ∧ ∃ n ∈ root.preorder,
        ∃ t ∈ n.braceTokens? doc, t.LineCommentOnOneLine doc := by
  have each : ∀ options, ∀ n ∈ root.preorder, ∀ t ∈ n.braceTokens? doc,
      (∃ d ∈ Rule.BraceSpacing.check options doc t, d.KeepsLineComment doc) ↔
        options.spacing = some .never ∧ t.LineCommentOnOneLine doc := fun options n inside t found =>
    Rule.BraceSpacing.check_keeps_iff options commented (placed_of_braceTokens?
      (placed.of_mem inside) (delimited.of_mem inside) (begun.of_mem inside) found)
  constructor
  · rintro ⟨d, reported, rule, keeps⟩
    obtain ⟨v, visited, said⟩ := mem_check_of_rule_iff.mp ⟨reported, rule⟩
    obtain ⟨options, set, t, found, said⟩ := mem_say_curlySpacing_iff.mp said
    have inside := Visit.node_mem_preorder visited
    obtain ⟨never, held⟩ := (each options _ inside t found).mp ⟨d, said, keeps⟩
    refine ⟨?_, v.node, inside, t, found, held⟩
    rw [set, ← never]
  · rintro ⟨set, n, inside, t, found, held⟩
    obtain ⟨v, visited, rfl⟩ := List.mem_map.mp inside
    obtain ⟨d, said, keeps⟩ := (each ⟨some .never⟩ _ inside t found).mpr ⟨rfl, held⟩
    obtain ⟨reported, rule⟩ := mem_check_of_rule_iff.mpr
      ⟨v, visited, mem_say_curlySpacing_iff.mpr ⟨_, set, t, found, said⟩⟩
    exact ⟨d, reported, rule, keeps⟩

theorem curlySpacing_kept_terminator (placed : root.WellPlaced doc.source)
    (delimited : root.WellDelimited doc.source) (begun : root.WellBegun doc.source)
    (commented : doc.source.Commented doc.comments) {d : Diagnostic} {f : Fix} {comment : Span}
    (reported : d ∈ (c.check doc root).diagnostics) (rule : d.rule = RuleName.jsxCurlySpacing.text)
    (fix : f ∈ d.fixes) (keeps : f.Keeps doc comment)
    (line : doc.source.hasAt "//" comment.start = true) :
    ∃ x, doc.source.char? comment.stop = some x ∧ isLineTerminator x = true ∧ x ≠ '\n' := by
  obtain ⟨v, visited, said⟩ := mem_check_of_rule_iff.mp ⟨reported, rule⟩
  obtain ⟨options, _, t, found, said⟩ := mem_say_curlySpacing_iff.mp said
  have inside := Visit.node_mem_preorder visited
  exact Rule.BraceSpacing.check_kept_terminator options commented (placed_of_braceTokens?
    (placed.of_mem inside) (delimited.of_mem inside) (begun.of_mem inside) found) said fix keeps line

theorem checkResolved_fixes {resolver : Resolver} {d : Diagnostic}
    (reported : d ∈ (c.checkResolved resolver doc root).diagnostics) : d.fixes = [] := by
  rw [checkResolved_eq_firstSaid] at reported
  obtain ⟨v, _, said⟩ := List.mem_flatMap.mp ((firstSaid_sublist _).mem reported)
  obtain ⟨r, listed, said⟩ := List.mem_flatMap.mp said
  have fixless : ∀ r ∈ RuleName.resolving, r.hasFix = false := by decide
  by_contra fixed
  have fixing := (r.checkResolved_issues resolver doc _ v d said).fixes fixed
  rw [fixless r (List.mem_filter.mp listed).1] at fixing
  cases fixing

theorem mem_lint_iff_of_fixes {ε : Type} {parse : Source → Dialect → Except ε Program}
    {text filename : String} {program : Program} {report : Report} {d : Diagnostic}
    (parsed : parse ⟨text⟩ (FileName.dialect filename) = .ok program)
    (linted : lintWith parse text filename c = .ok report) (fixed : d.fixes ≠ []) :
    d ∈ report.diagnostics ↔ d ∈ (c.check (.ofText text (FileName.dialect filename)
      (some filename) program.comments) program.root).diagnostics := by
  refine (mem_lint_iff parsed linted).trans (or_iff_left fun resolved => ?_)
  exact fixed (checkResolved_fixes resolved)

end Config

/-- A text that parses, whatever the parser, is linted. Where the program is faithful to the text, no fix of
the two rules that remove space keeps a comment that begins with `//` exactly when no such comment stands
around the `=` of an attribute, if space is refused there, and none stands in braces on one line, if space
is refused there. Line comments that are kept in braces end with another terminator than a line feed. -/
theorem lint_keeps_no_lineComment_iff {ε : Type} {parse : Source → Dialect → Except ε Program}
    {text filename : String} {program : Program} (c : Config)
    (parsed : parse ⟨text⟩ (FileName.dialect filename) = .ok program)
    (faithful : program.Faithful ⟨text⟩) (begun : program.root.WellBegun ⟨text⟩) :
    let doc := Document.ofText text (FileName.dialect filename) (some filename) program.comments
    ∃ report, lintWith parse text filename c = .ok report ∧
      ((∀ d ∈ report.diagnostics,
          d.rule = RuleName.jsxEqualsSpacing.text ∨ d.rule = RuleName.jsxCurlySpacing.text →
          ∀ f ∈ d.fixes, ∀ comment, f.Keeps doc comment →
            (Source.mk text).hasAt "//" comment.start = false) ↔
        (c.setting .jsxEqualsSpacing = some ⟨some .never⟩ → ∀ n ∈ program.root.preorder,
          ∀ o ∈ n.opening?, ∀ a ∈ o.attributes, ¬ a.LineCommentAroundEquals doc) ∧
        (c.setting .jsxCurlySpacing = some ⟨some .never⟩ → ∀ n ∈ program.root.preorder,
          ∀ t ∈ n.braceTokens? doc, ¬ t.LineCommentOnOneLine doc)) ∧
      ∀ d ∈ report.diagnostics, d.rule = RuleName.jsxCurlySpacing.text →
        ∀ f ∈ d.fixes, ∀ comment, f.Keeps doc comment →
          (Source.mk text).hasAt "//" comment.start = true →
          ∃ x, (Source.mk text).char? comment.stop = some x ∧ isLineTerminator x = true ∧ x ≠ '\n' := by
  intro doc
  obtain ⟨report, linted⟩ := exists_lint_of_parse c parsed
  -- The second pass suggests no fixes.
  have first : ∀ {d : Diagnostic}, d.fixes ≠ [] →
      (d ∈ report.diagnostics ↔ d ∈ (c.check doc program.root).diagnostics) :=
    fun fixed => Config.mem_lint_iff_of_fixes parsed linted fixed
  have equals := @Config.equalsSpacing_keeps_iff c doc program.root faithful.placed
    faithful.commented faithful.introduced
  have braces := @Config.curlySpacing_keeps_iff c doc program.root faithful.placed
    faithful.delimited begun faithful.commented
  refine ⟨report, linted, ⟨fun spared => ⟨?_, ?_⟩, fun ⟨noneAround, noneInside⟩ => ?_⟩, ?_⟩
  · intro never n inside o view a listed held
    obtain ⟨d, reported, rule, f, fix, comment, keeps, line⟩ :=
      equals.mpr ⟨never, n, inside, o, view, a, listed, held⟩
    have kept := spared d ((first (List.ne_nil_of_mem fix)).mpr reported) (Or.inl rule) f fix comment keeps
    rw [show (Source.mk text).hasAt "//" comment.start = true from line] at kept
    cases kept
  · intro never n inside t found held
    obtain ⟨d, reported, rule, f, fix, comment, keeps, line⟩ :=
      braces.mpr ⟨never, n, inside, t, found, held⟩
    have kept := spared d ((first (List.ne_nil_of_mem fix)).mpr reported) (Or.inr rule) f fix comment keeps
    rw [show (Source.mk text).hasAt "//" comment.start = true from line] at kept
    cases kept
  · intro d said rule f fix comment keeps
    have reported := (first (List.ne_nil_of_mem fix)).mp said
    refine Bool.eq_false_iff.mpr fun line => ?_
    rcases rule with rule | rule
    · obtain ⟨never, n, inside, o, view, a, listed, held⟩ :=
        equals.mp ⟨d, reported, rule, f, fix, comment, keeps, line⟩
      exact noneAround never n inside o view a listed held
    · obtain ⟨never, n, inside, t, found, held⟩ :=
        braces.mp ⟨d, reported, rule, f, fix, comment, keeps, line⟩
      exact noneInside never n inside t found held
  · intro d said rule f fix comment keeps line
    exact Config.curlySpacing_kept_terminator faithful.placed faithful.delimited begun
      faithful.commented ((first (List.ne_nil_of_mem fix)).mp said) rule fix keeps line

/-- A text with a line comment between a name and `=`. -/
def commentedEqualsText : String := "<a b // c\n=\"x\" />;"

set_option maxRecDepth 100000 in
theorem lint_keeps_no_lineComment_iff_of_commentedEqualsText :
    ∃ program, Program.parse ⟨commentedEqualsText⟩ (FileName.dialect "a.tsx") = .ok program ∧
      program.Faithful ⟨commentedEqualsText⟩ ∧ program.root.WellBegun ⟨commentedEqualsText⟩ ∧
      let doc := Document.ofText commentedEqualsText (FileName.dialect "a.tsx") (some "a.tsx")
        program.comments
      ∃ report, lint commentedEqualsText "a.tsx" noSpaceAroundEquals = .ok report ∧
        (∃ d ∈ report.diagnostics, d.rule = RuleName.jsxEqualsSpacing.text ∧
          d.fixes = [⟨⟨4, 10⟩, "// c", none⟩]) ∧
        ¬ ∀ n ∈ program.root.preorder, ∀ o ∈ n.opening?, ∀ a ∈ o.attributes,
          ¬ a.LineCommentAroundEquals doc := by
  have parsed : ∃ program,
      Program.parse ⟨commentedEqualsText⟩ (FileName.dialect "a.tsx") = .ok program ∧
      program.Faithful ⟨commentedEqualsText⟩ ∧ program.root.WellBegun ⟨commentedEqualsText⟩ ∧
      program.comments = [⟨5, 9⟩] ∧
      ∃ d ∈ (noSpaceAroundEquals.check (.ofText commentedEqualsText (FileName.dialect "a.tsx")
          (some "a.tsx") program.comments) program.root).diagnostics,
        d.rule = RuleName.jsxEqualsSpacing.text ∧ d.fixes = [⟨⟨4, 10⟩, "// c", none⟩] :=
    Program.exists_parse (by decide +kernel)
  obtain ⟨program, parse, faithful, begun, comments, d, said, rule, fixes⟩ := parsed
  obtain ⟨report, linted, spared, _⟩ :=
    lint_keeps_no_lineComment_iff noSpaceAroundEquals parse faithful begun
  have reported := (Config.mem_lint_iff_of_fixes parse linted (by rw [fixes]; nofun)).mpr said
  refine ⟨program, parse, faithful, begun, report, linted, ⟨d, reported, rule, fixes⟩, ?_⟩
  intro absent
  have kept := spared.mpr ⟨fun _ => absent, nofun⟩ d reported (Or.inl rule) ⟨⟨4, 10⟩, "// c", none⟩
    (by rw [fixes]; exact List.mem_singleton_self _) ⟨5, 9⟩ ⟨?_, ?_, ?_⟩
  · revert kept
    decide +kernel
  · rw [show (Document.ofText _ _ _ program.comments).comments = program.comments from rfl, comments]
    exact List.mem_singleton_self _
  · decide
  · change ((Source.mk commentedEqualsText).slice ⟨5, 9⟩).toList <:+: "// c".toList
    rewrite [show (Source.mk commentedEqualsText).slice ⟨5, 9⟩ = "// c" by decide +kernel]
    exact List.infix_rfl

end JsxCheck
