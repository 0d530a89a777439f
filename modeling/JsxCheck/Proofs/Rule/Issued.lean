import JsxCheck.Lint.NamePass
import JsxCheck.Rule.Metadata

/-!
What every diagnostic of a rule has in common: it carries the rule's name, it is a warning, and it
suggests fixes only if the rule is said to have some.

`check_issues` and `checkResolved_issues` say so of every rule. The rules are put together from a few ways to make lists, so
each of these gets a lemma of its own and the rules follow from them.
-/
namespace JsxCheck

/-- A diagnostic as a rule makes it. -/
structure RuleName.Issued (r : RuleName) (d : Diagnostic) : Prop where
  rule : d.rule = r.text
  severity : d.severity = .warning
  fixes : d.fixes ≠ [] → r.hasFix = true

/-- All diagnostics are as a rule makes them. -/
def RuleName.Issues (r : RuleName) (l : List Diagnostic) : Prop := ∀ d ∈ l, r.Issued d

namespace RuleName

variable {r : RuleName}

theorem issued_warning (span : Span) (message : String) : r.Issued (r.warning span message) :=
  ⟨rfl, rfl, fun nonempty => absurd rfl nonempty⟩

theorem Issued.addFixes {d : Diagnostic} (issued : r.Issued d) (fixing : r.hasFix = true)
    (fixes : List Fix) : r.Issued (d.addFixes fixes) :=
  ⟨issued.rule, issued.severity, fun _ => fixing⟩

theorem Issued.addFix {d : Diagnostic} (issued : r.Issued d) (fixing : r.hasFix = true)
    (fix : Fix) : r.Issued (d.addFix fix) :=
  ⟨issued.rule, issued.severity, fun _ => fixing⟩

theorem issues_nil : r.Issues [] := fun _ member => by cases member

theorem issues_one {d : Diagnostic} (issued : r.Issued d) : r.Issues [d] := by
  intro e member
  rwa [List.mem_singleton.mp member]

theorem issues_append {l₁ l₂ : List Diagnostic} (first : r.Issues l₁) (second : r.Issues l₂) :
    r.Issues (l₁ ++ l₂) := by
  intro d member
  exact (List.mem_append.mp member).elim (first d) (second d)

theorem issues_flatMap {α : Type} {l : List α} {f : α → List Diagnostic}
    (each : ∀ a ∈ l, r.Issues (f a)) : r.Issues (l.flatMap f) := by
  intro d member
  obtain ⟨a, inside, said⟩ := List.mem_flatMap.mp member
  exact each a inside d said

theorem issues_map {α : Type} {l : List α} {f : α → Diagnostic} (each : ∀ a, r.Issued (f a)) :
    r.Issues (l.map f) := by
  intro d member
  obtain ⟨a, _, rfl⟩ := List.mem_map.mp member
  exact each a

theorem issues_if {p : Prop} [Decidable p] {l : List Diagnostic} (issues : r.Issues l) :
    r.Issues (if p then l else []) := by
  split
  · exact issues
  · exact issues_nil

theorem issues_ifNot {p : Prop} [Decidable p] {l : List Diagnostic} (issues : r.Issues l) :
    r.Issues (if p then [] else l) := by
  split
  · exact issues_nil
  · exact issues

/-! ### Nodes of one kind -/

theorem issues_onOpening {check : Opening → List Diagnostic} {v : Visit}
    (each : ∀ o, r.Issues (check o)) : r.Issues (v.onOpening check) := by
  unfold Visit.onOpening
  split
  · exact each _
  · exact issues_nil

theorem issues_onElement {check : Element → List Diagnostic} {v : Visit}
    (each : ∀ e, r.Issues (check e)) : r.Issues (v.onElement check) := by
  unfold Visit.onElement
  split
  · exact each _
  · exact issues_nil

theorem issues_onForm {form : Expr} {check : Node → List Diagnostic} {v : Visit}
    (each : ∀ n, r.Issues (check n)) : r.Issues (v.onForm form check) := issues_if (each _)

theorem issues_onFragment {check : Span → List Node → List Diagnostic} {v : Visit}
    (each : ∀ s ns, r.Issues (check s ns)) : r.Issues (v.onFragment check) := by
  unfold Visit.onFragment
  split
  · exact each _ _
  · exact issues_nil

end RuleName

namespace Rule

open RuleName

/-! ### Attributes -/

theorem banElements_issues (options : BanElementsOptions) (doc : Document) (o : Opening) :
    jsxBanElements.Issues (banElements options doc o) := by
  unfold banElements
  dsimp only
  split
  · exact issues_nil
  · exact issues_one (issued_warning _ _)

theorem banProps_issues (options : BanPropsOptions) (o : Opening) :
    jsxBanProps.Issues (banProps options o) := by
  refine issues_flatMap fun a _ => ?_
  split
  · exact issues_nil
  · exact issues_one (issued_warning _ _)

theorem booleanValue_issues (options : BooleanValueOptions) (o : Opening) :
    jsxBooleanValue.Issues (booleanValue options o) := by
  refine issues_flatMap fun a _ => ?_
  unfold booleanValueOf
  split
  · exact issues_if (issues_one ((issued_warning _ _).addFix rfl _))
  · split
    · exact issues_one ((issued_warning _ _).addFix rfl _)
    · exact issues_nil

theorem bracePresence_issues (options : BracePresenceOptions) (doc : Document) (o : Opening) :
    jsxCurlyBracePresence.Issues (bracePresence options doc o) := by
  refine issues_flatMap fun a _ => ?_
  unfold bracePresenceOf
  split
  · split
    · exact issues_nil
    · exact issues_one ((issued_warning _ _).addFix rfl _)
  · split
    · exact issues_one ((issued_warning _ _).addFix rfl _)
    · exact issues_nil

theorem equalsSpacing_issues (options : SpacingOptions) (doc : Document) (o : Opening) :
    jsxEqualsSpacing.Issues (equalsSpacing options doc o) := by
  have made : ∀ span message fix, jsxEqualsSpacing.Issued (EqualsSpacing.warning span message fix) :=
    fun _ _ _ => (issued_warning _ _).addFix rfl _
  unfold equalsSpacing
  split
  · exact issues_nil
  · refine issues_flatMap fun a _ => ?_
    unfold EqualsSpacing.ofAttribute
    split
    · exact issues_nil
    · split
      · exact issues_nil
      · unfold EqualsSpacing.around
        dsimp only
        split
        · exact issues_append (issues_if (issues_one (made _ _ _)))
            (issues_if (issues_one (made _ _ _)))
        · exact issues_append (issues_map fun _ => made _ _ _) (issues_map fun _ => made _ _ _)

theorem warnAt_issues (r : RuleName) (message : String) (nodes : List Node) :
    r.Issues (warnAt r message nodes) := issues_map fun _ => issued_warning _ _

theorem stringRef_issues (r : RuleName) (o : Opening) : r.Issues (stringRef r o) := by
  unfold stringRef
  split
  · exact issues_one (issued_warning _ _)
  · exact issues_nil

/-- Both steps of the search for an item out of order fail with a diagnostic of the rule. -/
theorem sortProps_issues (options : SortPropsOptions) (o : Opening) :
    jsxSortProps.Issues (sortProps options o) := by
  have grouped : ∀ state item failure, SortProps.enterGroup options state item = .error failure →
      jsxSortProps.Issued failure := by
    intro state item failure failed
    unfold SortProps.enterGroup at failed
    split at failed
    · cases failed
    · dsimp only at failed
      split at failed
      · cases failed
        exact issued_warning _ _
      · cases failed
  have named : ∀ state item failure, SortProps.enterName options state item = .error failure →
      jsxSortProps.Issued failure := by
    intro state item failure failed
    unfold SortProps.enterName at failed
    split at failed
    · cases failed
    · dsimp only at failed
      split at failed
      · cases failed
        exact issued_warning _ _
      · cases failed
  have searched : ∀ items state, ∀ d ∈ SortProps.firstFailure options state items,
      jsxSortProps.Issued d := by
    intro items
    induction items with
    | nil => intro state d found; cases found
    | cons item rest ih =>
      intro state d found
      unfold SortProps.firstFailure at found
      split at found
      · rename_i failure failed
        cases found
        cases entered : SortProps.enterGroup options state item with
        | error e =>
          rw [entered] at failed
          cases failed
          exact grouped _ _ _ entered
        | ok next =>
          rw [entered] at failed
          exact named _ _ _ failed
      · exact ih _ d found
  intro d member
  exact searched _ _ d (Option.mem_toList.mp member)

theorem translatedAttributes_issues (o : Opening) :
    jsxUseTranslationFunction.Issues (translatedAttributes o) :=
  issues_map fun _ => issued_warning _ _

theorem translatedChildren_issues (doc : Document) (e : Element) :
    jsxUseTranslationFunction.Issues (translatedChildren doc e) :=
  issues_map fun _ => issued_warning _ _

/-! ### Layout -/

theorem reportIf_issues (wrong : Bool) (span : Span) (message : String) :
    jsxAlignment.Issues (Alignment.reportIf wrong span message) :=
  issues_if (issues_one (issued_warning _ _))

theorem alignment_issues (doc : Document) (e : Element) :
    jsxAlignment.Issues (alignment doc e) := by
  unfold alignment
  split
  · exact issues_nil
  · refine issues_if (issues_append (issues_append ?_ (reportIf_issues _ _ _)) ?_)
    · refine issues_append (issues_append (reportIf_issues _ _ _) (reportIf_issues _ _ _)) ?_
      exact issues_flatMap fun item _ =>
        issues_append (reportIf_issues _ _ _) (reportIf_issues _ _ _)
    · unfold Alignment.closing
      split
      · exact issues_nil
      · exact reportIf_issues _ _ _

theorem braceSpacingCheck_issues (options : SpacingOptions) (doc : Document)
    (t : BraceSpacing.Tokens) : jsxCurlySpacing.Issues (BraceSpacing.check options doc t) := by
  have made : ∀ span message fixes,
      jsxCurlySpacing.Issued (BraceSpacing.warning span message fixes) :=
    fun _ _ _ => (issued_warning _ _).addFixes rfl _
  unfold BraceSpacing.check
  split
  · exact issues_append (issues_if (issues_one (made _ _ _)))
      (issues_if (issues_one (made _ _ _)))
  · refine issues_append ?_ ?_
    · split
      · exact issues_ifNot (issues_one (made _ _ _))
      · exact issues_nil
    · split
      · exact issues_ifNot (issues_one (made _ _ _))
      · exact issues_nil
  · exact issues_nil

theorem onBraces_issues (options : SpacingOptions) (doc : Document) (v : Visit) :
    jsxCurlySpacing.Issues (v.onBraces (braceSpacing options doc) (spreadSpacing options doc)) := by
  have spread : ∀ span argument, jsxCurlySpacing.Issues (spreadSpacing options doc span argument) := by
    intro span argument
    unfold spreadSpacing
    split
    · exact braceSpacingCheck_issues _ _ _
    · exact issues_nil
  unfold Visit.onBraces
  split
  · exact braceSpacingCheck_issues _ _ _
  · exact spread _ _
  · exact spread _ _
  · exact issues_nil

theorem spaceBeforeTrailingSlash_issues (doc : Document) (e : Element) :
    jsxSpaceBeforeTrailingSlash.Issues (spaceBeforeTrailingSlash doc e) := by
  refine issues_if ?_
  dsimp only
  split
  · exact issues_ifNot (issues_one ((issued_warning _ _).addFix rfl _))
  · exact issues_nil

theorem selfClose_issues (doc : Document) (e : Element) :
    jsxSelfClose.Issues (selfClose doc e) := by
  unfold selfClose
  split
  · exact issues_nil
  · exact issues_if (issues_one ((issued_warning _ _).addFix rfl _))

theorem onText_issues (doc : Document) (v : Visit) :
    jsxWhitespaceLiteral.Issues (v.onText (whitespaceLiteral doc)) := by
  unfold Visit.onText
  split
  · exact issues_map fun _ => (issued_warning _ _).addFix rfl _
  · exact issues_nil

theorem onContainer_issues (doc : Document) (v : Visit) :
    jsxNoMultilineJs.Issues (v.onContainer (noMultilineJs doc)) := by
  unfold Visit.onContainer
  split
  · exact issues_if (issues_one (issued_warning _ _))
  · exact issues_nil

theorem wrapMulitlines_issues (doc : Document) (e : Element) (position : Position) :
    jsxWrapMulitlines.Issues (wrapMulitlines doc e position) := by
  refine issues_if ?_
  split
  · exact issues_nil
  · exact issues_one (issued_warning _ _)

theorem wrapMultiline_issues (doc : Document) (e : Element) (position : Position) :
    jsxWrapMultiline.Issues (wrapMultiline doc e position) := by
  refine issues_if ?_
  split
  · exact issues_nil
  · exact issues_one (issued_warning _ _)
  · exact issues_append (issues_if (issues_one (issued_warning _ _)))
      (issues_if (issues_one (issued_warning _ _)))

/-! ### Children and components -/

theorem preferFragment_issues (options : PreferFragmentOptions) (e : Element) :
    jsxPreferFragment.Issues (preferFragment options e) := by
  unfold preferFragment
  split
  · exact issues_if (issues_one ((issued_warning _ _).addFixes rfl _))
  · exact issues_nil

theorem noUnnecessaryFragment_issues (doc : Document) (span : Span) (children : List Node) :
    reactNoUnnecessaryFragment.Issues (noUnnecessaryFragment doc span children) :=
  issues_if (issues_one (issued_warning _ _))

theorem noUnnecessaryFragmentElement_issues (doc : Document) (e : Element) :
    reactNoUnnecessaryFragment.Issues (noUnnecessaryFragmentElement doc e) := by
  refine issues_if ?_
  split
  · exact issues_one (issued_warning _ _)
  · exact noUnnecessaryFragment_issues _ _ _

theorem missingKey_issues (n : Node) : jsxKey.Issues (Keys.missing n) := by
  unfold Keys.missing
  split
  · exact issues_ifNot (issues_one (issued_warning _ _))
  · exact issues_nil

theorem keys_issues (v : Visit) :
    jsxKey.Issues (v.onForm .array keysOfArray ++ v.onForm .call keyOfMapCall) := by
  refine issues_append (issues_onForm fun n => issues_flatMap fun c _ => missingKey_issues c)
    (issues_onForm fun n => ?_)
  unfold keyOfMapCall
  split
  · exact issues_if (missingKey_issues _)
  · exact issues_nil

theorem noAccessState_issues (doc : Document) (n : Node) :
    noAccessStateInSetstate.Issues (noAccessState doc n) := by
  unfold noAccessState
  split
  · exact issues_if (issues_one (issued_warning _ _))
  · exact issues_nil

theorem implementScu_issues (doc : Document) (n : Node) :
    reactComponentClassesShouldImplementScu.Issues (implementScu doc n) := by
  unfold implementScu
  split
  · exact issues_if (issues_one (issued_warning _ _))
  · exact issues_nil

theorem namedPropInterface_issues (doc : Document) (n : Node) :
    jsxNamedPropInterface.Issues (namedPropInterface doc n) := by
  unfold namedPropInterface
  split
  · exact issues_if (issues_one (issued_warning _ _))
  · exact issues_nil

theorem propSorting_issues (compare : String → String → Ordering) (doc : Document) (n : Node) :
    jsxPropSorting.Issues (propSorting compare doc n) := by
  unfold propSorting
  split
  · exact issues_map fun _ => issued_warning _ _
  · exact issues_nil

theorem primitiveAttributes_issues (doc : Document) (n : Node) :
    reactPureComponentsHavePrimitiveAttributes.Issues (primitiveAttributes doc n) := by
  unfold primitiveAttributes
  split
  · exact issues_if (issues_map fun _ => issued_warning _ _)
  · exact issues_nil

theorem simpleAttributes_issues (resolver : Resolver) (doc : Document) (v : Visit) :
    reactPureComponentsHaveSimpleAttributes.Issues (simpleAttributes resolver doc v) := by
  unfold simpleAttributes
  split
  · exact issues_map fun _ => issued_warning _ _
  · exact issues_nil

theorem noProptypes_issues (n : Node) : componentNoProptypes.Issues (noProptypes n) :=
  issues_if (issues_one (issued_warning _ _))

end Rule

namespace RuleName

open Rule

/-- Every diagnostic of a rule carries its name, is a warning, and has fixes only if the rule has. -/
theorem check_issues (r : RuleName) (options : r.Options) (doc : Document) (v : Visit)
    (position : Position) : r.Issues (r.check options doc v position) := by
  cases r with
  | componentNoProptypes => exact noProptypes_issues _
  | jsxAlignment => exact issues_onElement fun e => alignment_issues _ e
  | jsxBanElements => exact issues_onOpening fun o => banElements_issues _ _ o
  | jsxBanProps => exact issues_onOpening fun o => banProps_issues _ o
  | jsxBooleanValue => exact issues_onOpening fun o => booleanValue_issues _ o
  | jsxCurlyBracePresence => exact issues_onOpening fun o => bracePresence_issues _ _ o
  | jsxCurlySpacing => exact onBraces_issues _ _ _
  | jsxEqualsSpacing => exact issues_onOpening fun o => equalsSpacing_issues _ _ o
  | jsxKey => exact keys_issues _
  | jsxNamedPropInterface => exact namedPropInterface_issues _ _
  | jsxNoArrayLiteralProps => exact issues_onOpening fun o => warnAt_issues _ _ _
  | jsxNoBind => exact issues_onOpening fun o => warnAt_issues _ _ _
  | jsxNoBindProps => exact issues_onOpening fun o => warnAt_issues _ _ _
  | jsxNoJsxLiteralProps => exact issues_onOpening fun o => warnAt_issues _ _ _
  | jsxNoLambda => exact issues_onOpening fun o => warnAt_issues _ _ _
  | jsxNoLambdaProps => exact issues_onOpening fun o => warnAt_issues _ _ _
  | jsxNoMethodRef => exact issues_nil
  | jsxNoMultilineJs => exact onContainer_issues _ _
  | jsxNoObjectLiteralProps => exact issues_onOpening fun o => warnAt_issues _ _ _
  | jsxNoStringRef => exact issues_onOpening fun o => stringRef_issues _ o
  | jsxPreferFragment => exact issues_onElement fun e => preferFragment_issues _ e
  | jsxPropSorting => exact propSorting_issues _ _ _
  | jsxSelfClose => exact issues_onElement fun e => selfClose_issues _ e
  | jsxSortProps => exact issues_onOpening fun o => sortProps_issues _ o
  | jsxSpaceBeforeTrailingSlash =>
    exact issues_onElement fun e => spaceBeforeTrailingSlash_issues _ e
  | jsxUseTranslationFunction =>
    exact issues_append (issues_onOpening translatedAttributes_issues)
      (issues_onElement fun e => translatedChildren_issues _ e)
  | jsxWhitespaceLiteral => exact onText_issues _ _
  | jsxWrapMulitlines => exact issues_onElement fun e => wrapMulitlines_issues _ e _
  | jsxWrapMultiline => exact issues_onElement fun e => wrapMultiline_issues _ e _
  | noAccessStateInSetstate => exact issues_onForm fun n => noAccessState_issues _ n
  | noStringRef => exact issues_onOpening fun o => stringRef_issues _ o
  | reactComponentClassesShouldImplementScu => exact implementScu_issues _ _
  | reactNoUnnecessaryFragment =>
    exact issues_append (issues_onElement fun e => noUnnecessaryFragmentElement_issues _ e)
      (issues_onFragment fun s ns => noUnnecessaryFragment_issues _ s ns)
  | reactPureComponentsHavePrimitiveAttributes => exact primitiveAttributes_issues _ _
  | reactPureComponentsHaveSimpleAttributes => exact issues_nil

/-- So does every diagnostic that is made when names can be resolved. -/
theorem checkResolved_issues (r : RuleName) (resolver : Resolver) (doc : Document)
    (thisMethods : List String) (v : Visit) :
    r.Issues (r.checkResolved resolver doc thisMethods v) := by
  cases r with
  | jsxNoMethodRef => exact issues_onOpening fun o => issues_map fun _ => issued_warning _ _
  | reactPureComponentsHaveSimpleAttributes => exact simpleAttributes_issues _ _ _
  | _ => exact issues_nil

end RuleName

end JsxCheck
