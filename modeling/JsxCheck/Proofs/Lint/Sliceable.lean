import JsxCheck.Proofs.Lint.Passes
import JsxCheck.Proofs.Rule.BesideTokens

/-!
Spans under which there is a text.

Every span of a report lies in the text. `lint_spans_sliceable_iff` says when none of them splits a
character: exactly when no rule that runs meets a character of several bytes where it expects one of
a single byte.
-/
namespace JsxCheck

open Node

/-- What a program avoids when a rule splits no character of its text. -/
def RuleName.PointsWhole (r : RuleName) (options : r.Options) (doc : Document) (root : Node) : Prop :=
  match r, options with
  | .jsxAlignment, _ => ∀ n ∈ root.preorder, ∀ e ∈ n.element?, ¬ Rule.Alignment.WideClose doc e
  | .jsxEqualsSpacing, options => options.spacing = some .never →
      ∀ n ∈ root.preorder, ∀ o ∈ n.opening?, ∀ a ∈ o.attributes, ¬ a.WideBesideEquals doc
  | _, _ => True

namespace RuleName

variable {doc : Document} {root : Node}

theorem equalsSpacing_sliceable_iff (options : SpacingOptions) (placed : root.WellPlaced doc.source)
    (commented : doc.source.Commented doc.comments)
    (introduced : ∀ n ∈ root.preorder, ∀ o ∈ n.opening?, ∀ a ∈ o.attributes,
      a.Introduced doc.source) :
    (∀ v ∈ root.visits, ∀ d ∈ v.onOpening (Rule.equalsSpacing options doc),
        doc.source.Sliceable d.span) ↔
      RuleName.jsxEqualsSpacing.PointsWhole options doc root := by
  have each : ∀ usage, ∀ n ∈ root.preorder, ∀ o ∈ n.opening?, ∀ a ∈ o.attributes,
      (∀ d ∈ Rule.EqualsSpacing.ofAttribute usage doc a, doc.source.Sliceable d.span) ↔
        (usage = .never → ¬ a.WideBesideEquals doc) := fun usage n inside o view a listed =>
    Rule.EqualsSpacing.ofAttribute_sliceable_iff usage commented
      ((placed.of_mem inside).attribute view listed) (introduced n inside o view a listed)
  constructor
  · intro said never n inside o view a listed
    obtain ⟨v, visited, rfl⟩ := List.mem_map.mp inside
    refine (each .never _ inside o view a listed).mp (fun d member => said v visited d ?_) rfl
    exact Visit.mem_onOpening_iff.mpr
      ⟨o, view, Rule.EqualsSpacing.mem_equalsSpacing_iff.mpr ⟨_, never, a, listed, member⟩⟩
  · intro narrow v visited d said
    have inside := Visit.node_mem_preorder visited
    obtain ⟨o, view, said⟩ := Visit.mem_onOpening_iff.mp said
    obtain ⟨usage, set, a, listed, said⟩ := Rule.EqualsSpacing.mem_equalsSpacing_iff.mp said
    refine (each usage _ inside o view a listed).mpr (fun never => ?_) d said
    rw [never] at set
    exact narrow set v.node inside o view a listed

theorem alignment_sliceable_iff (options : NoOptions) (placed : root.WellPlaced doc.source)
    (delimited : root.WellDelimited doc.source) :
    (∀ v ∈ root.visits, ∀ d ∈ v.onElement (Rule.alignment doc), doc.source.Sliceable d.span) ↔
      RuleName.jsxAlignment.PointsWhole options doc root := by
  have each : ∀ n ∈ root.preorder, ∀ e ∈ n.element?,
      (∀ d ∈ Rule.alignment doc e, doc.source.Sliceable d.span) ↔
        ¬ Rule.Alignment.WideClose doc e := fun n inside e view =>
    Rule.Alignment.alignment_sliceable_iff (placed.of_mem inside) (delimited.of_mem inside) view
  constructor
  · intro said n inside e view
    obtain ⟨v, visited, rfl⟩ := List.mem_map.mp inside
    exact (each v.node inside e view).mp fun d member =>
      said v visited d (Visit.mem_onElement_iff.mpr ⟨e, view, member⟩)
  · intro narrow v visited d said
    have inside := Visit.node_mem_preorder visited
    obtain ⟨e, view, said⟩ := Visit.mem_onElement_iff.mp said
    exact (each v.node inside e view).mpr (narrow v.node inside e view) d said

/-- A rule splits no character exactly when the program avoids what makes it do so. -/
theorem check_sliceable_iff (r : RuleName) (options : r.Options) (placed : root.WellPlaced doc.source)
    (delimited : root.WellDelimited doc.source) (commented : doc.source.Commented doc.comments)
    (introduced : ∀ n ∈ root.preorder, ∀ o ∈ n.opening?, ∀ a ∈ o.attributes,
      a.Introduced doc.source) :
    (∀ v ∈ root.visits, ∀ d ∈ r.check options doc v v.position, doc.source.Sliceable d.span) ↔
      r.PointsWhole options doc root := by
  have below : ∀ v ∈ root.visits, v.node.WellPlaced doc.source ∧ v.node.WellDelimited doc.source :=
    fun v visited => ⟨placed.of_mem (Visit.node_mem_preorder visited),
      delimited.of_mem (Visit.node_mem_preorder visited)⟩
  cases whole : r.pointsAtNodes with
  | true =>
    refine iff_of_true ?_ (by cases r <;> first | exact trivial | cases whole)
    intro v visited d said
    obtain ⟨m, inside, span⟩ := r.check_shows options doc v v.position whole d said
    rw [← span]
    exact ((below v visited).1 m inside).sliceable
  | false =>
    -- Five rules build spans of their own.
    cases r with
    | jsxAlignment => exact alignment_sliceable_iff options placed delimited
    | jsxEqualsSpacing => exact equalsSpacing_sliceable_iff options placed commented introduced
    | jsxCurlySpacing =>
      exact iff_of_true (fun v visited =>
        v.onBraces_sliceable options (below v visited).1 (below v visited).2) trivial
    | jsxWhitespaceLiteral => exact iff_of_true (fun v _ => v.onText_sliceable) trivial
    | jsxWrapMultiline =>
      exact iff_of_true (fun v visited => Visit.wrapMultiline_sliceable placed visited) trivial
    | _ => cases whole

end RuleName

namespace Config

theorem check_sliceable_iff (c : Config) {doc : Document} {root : Node}
    (placed : root.WellPlaced doc.source) (delimited : root.WellDelimited doc.source)
    (commented : doc.source.Commented doc.comments)
    (introduced : ∀ n ∈ root.preorder, ∀ o ∈ n.opening?, ∀ a ∈ o.attributes,
      a.Introduced doc.source) :
    (∀ d ∈ (c.check doc root).diagnostics, doc.source.Sliceable d.span) ↔
      ∀ r options, c.setting r = some options → r.PointsWhole options doc root := by
  have each := fun r options => RuleName.check_sliceable_iff r options placed delimited commented introduced
  constructor
  · intro said r options set
    exact (each r options).mp fun v visited d member =>
      said d (mem_check_iff.mpr ⟨r, v, visited, mem_say_iff.mpr ⟨options, set, member⟩⟩)
  · intro avoided d reported
    obtain ⟨r, v, visited, said⟩ := mem_check_iff.mp reported
    obtain ⟨options, set, said⟩ := mem_say_iff.mp said
    exact (each r options).mpr (avoided r options set) v visited d said

/-- The second pass points at nodes, so what it points at can be cut out. -/
theorem checkResolved_sliceable (c : Config) {doc : Document} {root : Node}
    (placed : root.WellPlaced doc.source) :
    ∀ d ∈ (c.checkResolved (.ofProgram root) doc root).diagnostics, doc.source.Sliceable d.span := by
  intro d reported
  rw [checkResolved_eq_firstSaid] at reported
  obtain ⟨v, visited, said⟩ := List.mem_flatMap.mp ((firstSaid_sublist _).mem reported)
  obtain ⟨r, _, said⟩ := List.mem_flatMap.mp said
  obtain ⟨m, inside, span⟩ := r.checkResolved_shows doc _ visited d said
  rw [← span]
  exact (placed m inside).sliceable

theorem checkBoth_sliceable_iff (c : Config) {doc : Document} {root : Node}
    (placed : root.WellPlaced doc.source) :
    (∀ d ∈ (c.checkBoth doc root).diagnostics, doc.source.Sliceable d.span) ↔
      ∀ d ∈ (c.check doc root).diagnostics, doc.source.Sliceable d.span := by
  have resolved := c.checkResolved_sliceable placed
  simp only [(c.checkBoth_perm doc root).mem_iff, List.mem_append, or_imp, forall_and]
  exact and_iff_left resolved

end Config

/-- A text that parses, whatever the parser, is linted. Where the program is faithful to the text, each
span of the report is in order, in the text, and between characters, exactly when no rule that runs meets
a character of several bytes beside a token where it takes one byte for a character. -/
theorem lint_spans_sliceable_iff {ε : Type} {parse : Source → Dialect → Except ε Program}
    {text filename : String} {program : Program} (c : Config)
    (parsed : parse ⟨text⟩ (FileName.dialect filename) = .ok program)
    (faithful : program.Faithful ⟨text⟩) :
    ∃ report, lintWith parse text filename c = .ok report ∧
      ((∀ d ∈ report.diagnostics,
          d.span.start ≤ d.span.stop ∧ d.span.stop ≤ (Source.mk text).size ∧
            (Source.mk text).isBoundary d.span.start = true ∧
            (Source.mk text).isBoundary d.span.stop = true) ↔
        ∀ r options, c.setting r = some options → r.PointsWhole options
          (.ofText text (FileName.dialect filename) (some filename) program.comments)
          program.root) := by
  have spelled : ∀ d : Diagnostic, (Source.mk text).Sliceable d.span ↔
      (d.span.start ≤ d.span.stop ∧ d.span.stop ≤ (Source.mk text).size ∧
        (Source.mk text).isBoundary d.span.start = true ∧
        (Source.mk text).isBoundary d.span.stop = true) := fun d =>
    ⟨fun sliceable => ⟨sliceable.ordered, sliceable.bounded, sliceable.starts, sliceable.stops⟩,
      fun ⟨order, _, starts, stops⟩ => ⟨order, starts, stops⟩⟩
  refine ⟨_, lint_eq_of_parse c parsed, ?_⟩
  have first := @Config.check_sliceable_iff c
    (.ofText text (FileName.dialect filename) (some filename) program.comments) program.root
    faithful.placed faithful.delimited faithful.commented faithful.introduced
  simp only [← spelled]
  cases c.needsResolution with
  | true => exact (c.checkBoth_sliceable_iff faithful.placed).trans first
  | false => exact first

/-- A text with a wide space behind `=`. -/
def wideSpaceText : String := "<a b=\u3000\"x\" />;"

/-- Space around `=` is refused, and no other rule runs. -/
def noSpaceAroundEquals : Config := Config.empty.put .jsxEqualsSpacing (some ⟨some .never⟩)

set_option maxRecDepth 100000 in
theorem lint_spans_sliceable_iff_of_wideSpaceText :
    ∃ program, Program.parse ⟨wideSpaceText⟩ (FileName.dialect "a.tsx") = .ok program ∧
      program.Faithful ⟨wideSpaceText⟩ ∧
      ∃ report, lint wideSpaceText "a.tsx" noSpaceAroundEquals = .ok report ∧
        (∃ d ∈ report.diagnostics, (Source.mk wideSpaceText).isBoundary d.span.stop = false) ∧
        ¬ RuleName.jsxEqualsSpacing.PointsWhole ⟨some .never⟩
          (.ofText wideSpaceText (FileName.dialect "a.tsx") (some "a.tsx") program.comments)
          program.root := by
  have parsed : ∃ program, Program.parse ⟨wideSpaceText⟩ (FileName.dialect "a.tsx") = .ok program ∧
      program.Faithful ⟨wideSpaceText⟩ ∧
      ∃ d ∈ (noSpaceAroundEquals.check (.ofText wideSpaceText (FileName.dialect "a.tsx")
          (some "a.tsx") program.comments) program.root).diagnostics,
        (Source.mk wideSpaceText).isBoundary d.span.stop = false :=
    Program.exists_parse (by decide +kernel)
  obtain ⟨program, parse, faithful, d, said, split⟩ := parsed
  have report := lint_eq_of_parse noSpaceAroundEquals parse
  rw [show noSpaceAroundEquals.needsResolution = false from rfl] at report
  obtain ⟨_, linted, whole⟩ := lint_spans_sliceable_iff noSpaceAroundEquals parse faithful
  obtain rfl := Except.ok.inj (linted.symm.trans report)
  refine ⟨program, parse, faithful, _, linted, ⟨d, said, split⟩, ?_⟩
  intro avoided
  have sliceable := whole.mpr ?_ d said
  · rw [sliceable.2.2.2] at split
    cases split
  · intro r options set
    obtain rfl : r = .jsxEqualsSpacing := by
      cases r <;> first | rfl | cases set
    obtain rfl : ⟨some .never⟩ = options := Option.some.inj set
    exact avoided

end JsxCheck
