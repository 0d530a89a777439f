import JsxCheck.Proofs.Lint.Isolation
import JsxCheck.Proofs.Rule.LayoutOnce
import JsxCheck.Proofs.Rule.PartsOnce
import JsxCheck.Proofs.Rule.SearchedTwice

/-!
Spans that a rule points at twice.

Most rules point at no span twice in any program. `check_spans_nodup_iff` says what has to be absent
from a program for the others: a name that is spelled once for two nodes, an attribute with two faults
in its alignment, and a tag in a searched value whose own values hold what is searched for.
-/
namespace JsxCheck

open Node Visit

/-- What a program avoids when a rule points at none of its spans twice. -/
def RuleName.PointsOnce (r : RuleName) (doc : Document) (root : Node) : Prop :=
  match r with
  | .componentNoProptypes => ¬ root.SpelledForTwo "propTypes"
  | .jsxAlignment => ∀ n ∈ root.preorder, ∀ e, n.element? = some e →
      ¬ Rule.Alignment.HasTwoFaults doc e
  | .jsxNoBindProps => root.SearchedApart (Rule.isCallWith doc ".bind(") fun _ => false
  | .jsxNoJsxLiteralProps => root.SearchedApart Rule.isElement fun _ => false
  | .jsxNoLambdaProps => root.SearchedApart isFunctionLike (·.name == "ref")
  | .jsxNoObjectLiteralProps => root.SearchedApart Rule.isObject fun _ => false
  | _ => True

theorem nodup_of_silent {root : Node} {f : Visit → List Diagnostic} (silent : ∀ v, f v = []) :
    (spansOf (root.visits.flatMap f)).Nodup := by
  rw [List.flatMap_eq_nil_iff.mpr fun v _ => silent v]
  exact List.nodup_nil

theorem RuleName.check_nodup_iff (r : RuleName) (options : r.Options) {text : String}
    (dialect : Dialect) (path : Option String) (comments : List Span) {root : Node}
    (formed : root.WellFormed ⟨text⟩) :
    (spansOf (root.visits.flatMap fun v =>
        r.check options (.ofText text dialect path comments) v v.position)).Nodup ↔
      r.PointsOnce (.ofText text dialect path comments) root := by
  cases r with
  | componentNoProptypes => exact Rule.noProptypes_nodup_iff formed
  | jsxAlignment => exact Rule.alignment_nodup_iff dialect path comments formed
  | jsxNoBindProps =>
    exact Rule.searchedValues_nodup_iff _ _ (Rule.searchable_isCallWith _ _) formed
  | jsxNoJsxLiteralProps => exact Rule.searchedValues_nodup_iff _ _ Rule.searchable_isElement formed
  | jsxNoLambdaProps => exact Rule.searchedValues_nodup_iff _ _ Rule.searchable_isFunctionLike formed
  | jsxNoObjectLiteralProps =>
    exact Rule.searchedValues_nodup_iff _ _ Rule.searchable_isObject formed
  | jsxBanElements => exact iff_true_intro (Rule.banElements_once options _ formed)
  | jsxBanProps => exact iff_true_intro (Rule.banProps_once options formed)
  | jsxBooleanValue => exact iff_true_intro (Rule.booleanValue_once options formed)
  | jsxCurlyBracePresence => exact iff_true_intro (Rule.bracePresence_once options _ formed)
  | jsxCurlySpacing => exact iff_true_intro (Rule.braceSpacing_once options _ formed)
  | jsxEqualsSpacing => exact iff_true_intro (Rule.equalsSpacing_once options _ formed)
  | jsxKey => exact iff_true_intro (Rule.jsxKey_once formed)
  | jsxNamedPropInterface => exact iff_true_intro (Rule.namedPropInterface_once _ formed)
  | jsxNoArrayLiteralProps =>
    exact iff_true_intro (Rule.valuesThat_once _ _
      (fun n holds => (Rule.isExpr_of_expr? (beq_iff_eq.mp holds)).1) formed)
  | jsxNoBind => exact iff_true_intro (Rule.noBind_once _ formed)
  | jsxNoLambda =>
    exact iff_true_intro (Rule.valuesThat_once _ _
      (fun _ function => (Rule.isFunctionLike_plain function).1) formed)
  | jsxNoMethodRef => exact iff_true_intro (nodup_of_silent fun _ => rfl)
  | jsxNoMultilineJs => exact iff_true_intro (Rule.noMultilineJs_once _ formed)
  | jsxNoStringRef => exact iff_true_intro (Rule.stringRef_once _ formed)
  | jsxPreferFragment => exact iff_true_intro (Rule.preferFragment_once options formed)
  | jsxPropSorting => exact iff_true_intro (Rule.propSorting_once _ _ formed)
  | jsxSelfClose => exact iff_true_intro (Rule.selfClose_once _ formed)
  | jsxSortProps => exact iff_true_intro (Rule.sortProps_once options formed)
  | jsxSpaceBeforeTrailingSlash =>
    exact iff_true_intro (Rule.spaceBeforeTrailingSlash_once _ formed)
  | jsxUseTranslationFunction => exact iff_true_intro (Rule.useTranslation_once _ formed)
  | jsxWhitespaceLiteral => exact iff_true_intro (Rule.whitespaceLiteral_once _ formed)
  | jsxWrapMulitlines => exact iff_true_intro (Rule.wrapMulitlines_once _ formed)
  | jsxWrapMultiline => exact iff_true_intro (Rule.wrapMultiline_once _ formed)
  | noAccessStateInSetstate => exact iff_true_intro (Rule.noAccessState_once _ formed)
  | noStringRef => exact iff_true_intro (Rule.stringRef_once _ formed)
  | reactComponentClassesShouldImplementScu =>
    exact iff_true_intro (Rule.implementScu_once _ formed)
  | reactNoUnnecessaryFragment => exact iff_true_intro (Rule.noUnnecessaryFragment_once _ formed)
  | reactPureComponentsHavePrimitiveAttributes =>
    exact iff_true_intro (Rule.primitiveAttributes_once _ formed)
  | reactPureComponentsHaveSimpleAttributes => exact iff_true_intro (nodup_of_silent fun _ => rfl)

namespace Config

/-- Entries of one rule differ when, under every name, they do. -/
theorem nodup_map_iff (said : List Diagnostic) :
    (said.map fun d => (d.rule, d.span)).Nodup ↔
      ∀ name, (spansOf (said.filter (·.rule == name))).Nodup := by
  simp only [List.Nodup, List.pairwise_map, List.pairwise_filter, beq_iff_eq]
  constructor
  · intro once name
    refine once.imp ?_
    intro d d' differ here there same
    exact differ (Prod.ext (here.trans there.symm) same)
  · intro once
    refine List.pairwise_iff_forall_sublist.mpr ?_
    intro d d' order same
    obtain ⟨rule, span⟩ := Prod.mk.inj same
    exact List.pairwise_iff_forall_sublist.mp (once d'.rule) order rule rfl span

theorem exists_rule_of_mem {c : Config} {doc : Document} {root : Node} {d : Diagnostic}
    (said : d ∈ (c.check doc root).diagnostics) : ∃ r : RuleName, d.rule = r.text := by
  rw [check, Walk.findings_eq] at said
  obtain ⟨v, _, told⟩ := List.mem_flatMap.mp said
  rw [checkVisit_eq] at told
  obtain ⟨r, _, told⟩ := List.mem_flatMap.mp told
  exact ⟨r, (say_issues c doc v v.position r d told).rule⟩

/-- Entries of one rule at one span are absent exactly when every rule that runs says different spans
of the nodes. -/
theorem nodup_check_iff (c : Config) (doc : Document) (root : Node) :
    ((c.check doc root).diagnostics.map fun d => (d.rule, d.span)).Nodup ↔
      ∀ r, (spansOf (root.visits.flatMap fun v => c.say doc v v.position r)).Nodup := by
  rw [nodup_map_iff]
  constructor
  · intro once r
    rw [← filter_check_eq_flatMap]
    exact once r.text
  · intro once name
    by_cases known : ∃ d ∈ (c.check doc root).diagnostics, d.rule = name
    · obtain ⟨d, said, rfl⟩ := known
      obtain ⟨r, named⟩ := exists_rule_of_mem said
      rw [named, filter_check_eq_flatMap]
      exact once r
    · have none : (c.check doc root).diagnostics.filter (·.rule == name) = [] := by
        rw [List.filter_eq_nil_iff]
        intro d said named
        exact known ⟨d, said, beq_iff_eq.mp named⟩
      rw [none]
      exact List.nodup_nil

/-- A report holds no two entries of one rule at one span exactly when the program avoids, for every
rule that runs, what makes the rule point at a span twice. -/
theorem check_spans_nodup_iff (c : Config) {text : String} (dialect : Dialect)
    (path : Option String) (comments : List Span) {root : Node} (formed : root.WellFormed ⟨text⟩) :
    ((c.check (.ofText text dialect path comments) root).diagnostics.map
        fun d => (d.rule, d.span)).Nodup ↔
      ∀ r, c.isEnabled r = true → r.PointsOnce (.ofText text dialect path comments) root := by
  rw [nodup_check_iff]
  refine forall_congr' fun r => ?_
  unfold say isEnabled
  cases c.setting r with
  | none => exact iff_of_true (nodup_of_silent fun _ => rfl) fun enabled => by cases enabled
  | some options =>
    rw [Option.isSome_some, imp_iff_right rfl]
    exact r.check_nodup_iff options dialect path comments formed

set_option maxRecDepth 100000 in
theorem check_spans_nodup_iff_of_nested_tag :
    ∃ program, Program.parse ⟨"<A icon={<B onClick={() => x} />} />;"⟩ .tsx = .ok program ∧
      program.root.WellFormed ⟨"<A icon={<B onClick={() => x} />} />;"⟩ ∧
      ¬ (((empty.enable .jsxNoLambdaProps).check
          (.ofText "<A icon={<B onClick={() => x} />} />;" .tsx none []) program.root).diagnostics.map
            fun d => (d.rule, d.span)).Nodup ∧
      ¬ RuleName.jsxNoLambdaProps.PointsOnce
        (.ofText "<A icon={<B onClick={() => x} />} />;" .tsx none []) program.root := by
  have parsed : ∃ program, Program.parse ⟨"<A icon={<B onClick={() => x} />} />;"⟩ .tsx = .ok program ∧
      program.root.WellFormed ⟨"<A icon={<B onClick={() => x} />} />;"⟩ ∧
      ¬ (((empty.enable .jsxNoLambdaProps).check
          (.ofText "<A icon={<B onClick={() => x} />} />;" .tsx none []) program.root).diagnostics.map
            fun d => (d.rule, d.span)).Nodup :=
    Program.exists_parse (by decide +kernel)
  obtain ⟨program, parse, formed, repeated⟩ := parsed
  refine ⟨program, parse, formed, repeated, ?_⟩
  intro once
  refine repeated ((check_spans_nodup_iff _ .tsx none [] formed).mpr ?_)
  intro r enabled
  obtain rfl : r = .jsxNoLambdaProps := by
    revert enabled
    cases r <;> decide
  exact once

end Config

end JsxCheck
