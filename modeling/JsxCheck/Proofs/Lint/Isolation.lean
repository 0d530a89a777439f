import JsxCheck.Lint.Pass
import JsxCheck.Proofs.Config.Settings
import JsxCheck.Proofs.Lint.Walk
import JsxCheck.Proofs.Rule.Issued
import JsxCheck.Proofs.Syntax.Formed

/-!
Rules do not disturb each other.

All rules that run share one walk, in which what they say is interleaved. `filter_check` says that
what one rule contributes is nevertheless what it would say alone, and `filter_check_eq_flatMap` that
it is what the rule says about one node after the other.
-/
namespace JsxCheck

namespace Config

/-- One rule runs as it does in a configuration, and no other. -/
def only (c : Config) (r : RuleName) : Config := empty.put r (c.setting r)

/-- What one rule of a configuration says about a node. -/
def say (c : Config) (doc : Document) (v : Visit) (position : Position) (r : RuleName) :
    List Diagnostic :=
  match c.setting r with
  | some options => r.check options doc v position
  | none => []

theorem checkVisit_eq (c : Config) (doc : Document) (v : Visit) (position : Position) :
    c.checkVisit doc v position = RuleName.speakingOrder.flatMap (c.say doc v position) := rfl

theorem say_issues (c : Config) (doc : Document) (v : Visit) (position : Position) (r : RuleName) :
    r.Issues (c.say doc v position r) := by
  unfold say
  split
  · exact r.check_issues _ doc v position
  · exact RuleName.issues_nil

theorem say_congr {c c' : Config} {r : RuleName} (same : c.setting r = c'.setting r)
    (doc : Document) (v : Visit) (position : Position) :
    c.say doc v position r = c'.say doc v position r := by
  rw [say, say, same]

theorem say_only (c : Config) (doc : Document) (v : Visit) (position : Position) (r s : RuleName) :
    (c.only r).say doc v position s = if s = r then c.say doc v position s else [] := by
  by_cases same : s = r
  · subst s
    rw [if_pos rfl]
    exact say_congr (setting_put_same empty r _) doc v position
  · rw [if_neg same, say, only, setting_put_other _ (Ne.symm same)]
    rfl

/-- Of what a rule says, the part under a name is all of it or nothing. -/
theorem filter_say (c : Config) (doc : Document) (v : Visit) (position : Position)
    (r s : RuleName) :
    (c.say doc v position s).filter (·.rule == r.text) =
      if s = r then c.say doc v position s else [] := by
  have named : ∀ d ∈ c.say doc v position s, d.rule = s.text :=
    fun d member => (say_issues c doc v position s d member).rule
  by_cases same : s = r
  · subst s
    rw [if_pos rfl, List.filter_eq_self]
    intro d member
    rw [named d member]
    exact beq_self_eq_true _
  · rw [if_neg same, List.filter_eq_nil_iff]
    intro d member
    rw [named d member, beq_iff_eq]
    exact fun text => same (RuleName.text_injective text)

theorem filter_checkVisit (c : Config) (doc : Document) (v : Visit) (position : Position)
    (r : RuleName) :
    (c.checkVisit doc v position).filter (·.rule == r.text) =
      (c.only r).checkVisit doc v position := by
  rw [checkVisit_eq, checkVisit_eq, List.filter_flatMap]
  apply List.flatMap_congr
  intro s _
  rw [filter_say, say_only]

/-- The part of a report under one rule's name is the report of that rule alone. -/
theorem filter_check (c : Config) (doc : Document) (root : Node) (r : RuleName) :
    (c.check doc root).diagnostics.filter (·.rule == r.text) =
      ((c.only r).check doc root).diagnostics := by
  rw [check, check, Walk.findings_eq, Walk.findings_eq, List.filter_flatMap]
  exact List.flatMap_congr fun v _ => filter_checkVisit c doc v v.position r

theorem flatMap_ite_of_nodup {order : List RuleName} (once : order.Nodup) (r : RuleName)
    (f : RuleName → List Diagnostic) :
    (order.flatMap fun s => if s = r then f s else []) = if r ∈ order then f r else [] := by
  induction order with
  | nil => rfl
  | cons s order ih =>
    obtain ⟨fresh, once⟩ := List.nodup_cons.mp once
    rw [List.flatMap_cons, ih once]
    by_cases same : s = r
    · subst s
      rw [if_pos rfl, if_neg fresh, if_pos List.mem_cons_self, List.append_nil]
    · rw [if_neg same, List.nil_append]
      simp only [List.mem_cons, Ne.symm same, false_or]

/-- Rules that need names resolved have nothing to say in the walk. -/
theorem say_eq_nil_of_not_speaking {r : RuleName} (absent : r ∉ RuleName.speakingOrder)
    (c : Config) (doc : Document) (v : Visit) (position : Position) :
    c.say doc v position r = [] := by
  have resolving : r = .jsxNoMethodRef ∨ r = .reactPureComponentsHaveSimpleAttributes := by
    revert absent
    cases r <;> decide
  unfold say
  rcases resolving with rfl | rfl <;> (split <;> rfl)

theorem flatMap_say_ite (c : Config) (doc : Document) (v : Visit) (position : Position)
    (r : RuleName) :
    (RuleName.speakingOrder.flatMap fun s => if s = r then c.say doc v position s else []) =
      c.say doc v position r := by
  rw [flatMap_ite_of_nodup (by decide)]
  split
  · rfl
  · rename_i absent
    exact (say_eq_nil_of_not_speaking absent c doc v position).symm

/-- The part of a report under one rule's name is what the rule says about each node, in pre-order. -/
theorem filter_check_eq_flatMap (c : Config) (doc : Document) (root : Node) (r : RuleName) :
    (c.check doc root).diagnostics.filter (·.rule == r.text) =
      root.visits.flatMap fun v => c.say doc v v.position r := by
  rw [check, Walk.findings_eq, List.filter_flatMap]
  apply List.flatMap_congr
  intro v _
  rw [checkVisit_eq, List.filter_flatMap, ← flatMap_say_ite]
  exact List.flatMap_congr fun s _ => filter_say c doc v v.position r s

theorem mem_say_iff {c : Config} {doc : Document} {v : Visit} {r : RuleName} {d : Diagnostic} :
    d ∈ c.say doc v v.position r ↔
      ∃ options, c.setting r = some options ∧ d ∈ r.check options doc v v.position := by
  unfold say
  cases c.setting r <;> simp

theorem mem_check_iff {c : Config} {doc : Document} {root : Node} {d : Diagnostic} :
    d ∈ (c.check doc root).diagnostics ↔
      ∃ r, ∃ v ∈ root.visits, d ∈ c.say doc v v.position r := by
  rw [check, Walk.findings_eq, List.mem_flatMap]
  constructor
  · rintro ⟨v, visited, said⟩
    rw [checkVisit_eq] at said
    obtain ⟨r, _, said⟩ := List.mem_flatMap.mp said
    exact ⟨r, v, visited, said⟩
  · rintro ⟨r, v, visited, said⟩
    refine ⟨v, visited, ?_⟩
    rw [checkVisit_eq]
    refine List.mem_flatMap.mpr ⟨r, ?_, said⟩
    by_contra silent
    rw [say_eq_nil_of_not_speaking silent] at said
    cases said

theorem silent_iff {c : Config} {doc : Document} {root : Node} {r : RuleName} :
    (∀ d ∈ (c.check doc root).diagnostics, d.rule ≠ r.text) ↔
      ∀ v ∈ root.visits, c.say doc v v.position r = [] := by
  rw [← List.flatMap_eq_nil_iff, ← filter_check_eq_flatMap, List.filter_eq_nil_iff]
  simp only [beq_iff_eq, ne_eq]

/-- What a rule contributes to a report, and in which order, is what it says when it runs alone, so
no setting of another rule has a part in it. -/
theorem check_rule_isolated (c : Config) (doc : Document) (root : Node) (r : RuleName) :
    (c.check doc root).diagnostics.filter (·.rule == r.text) =
        ((c.only r).check doc root).diagnostics ∧
      ∀ c' : Config, c'.setting r = c.setting r →
        (c'.check doc root).diagnostics.filter (·.rule == r.text) =
          (c.check doc root).diagnostics.filter (·.rule == r.text) := by
  refine ⟨filter_check c doc root r, ?_⟩
  intro c' same
  rw [filter_check, filter_check, only, only, same]

set_option maxRecDepth 100000 in
theorem check_rule_isolated_in_array :
    ∃ program, Program.parse ⟨"[<A></A>]"⟩ .tsx = .ok program ∧
      all.setting .jsxKey = recommended.setting .jsxKey ∧
      (recommended.check (.ofText "[<A></A>]" .tsx none []) program.root).diagnostics.filter
        (·.rule == RuleName.jsxKey.text) ≠ [] ∧
      (all.check (.ofText "[<A></A>]" .tsx none []) program.root).diagnostics.filter
          (·.rule == RuleName.jsxKey.text) =
        (recommended.check (.ofText "[<A></A>]" .tsx none []) program.root).diagnostics.filter
          (·.rule == RuleName.jsxKey.text) := by
  have parsed : ∃ program, Program.parse ⟨"[<A></A>]"⟩ .tsx = .ok program ∧
      (recommended.check (.ofText "[<A></A>]" .tsx none []) program.root).diagnostics.filter
        (·.rule == RuleName.jsxKey.text) ≠ [] := Program.exists_parse (by decide +kernel)
  obtain ⟨program, parse, reported⟩ := parsed
  exact ⟨program, parse, rfl, reported,
    (check_rule_isolated recommended _ program.root .jsxKey).2 all rfl⟩

end Config

end JsxCheck
