import JsxCheck.Proofs.Fix.Order
import JsxCheck.Proofs.Rule.Issued
import JsxCheck.Proofs.Rule.Runs
import JsxCheck.Proofs.Syntax.Placed

/-!
The fixes of the rules on a tree that is well placed in a text.

Eight rules suggest fixes. Where a fix starts and ends is read off the tree, or found in the text by a
search or a slice, and from either it follows that no character is split. `check_applicable` says so
of all rules. The two names in the tags of an element are the only fixes that are made together.
-/
namespace JsxCheck

/-- The fixes of a diagnostic split no character and are clear of each other. -/
structure Diagnostic.Applicable (source : Source) (d : Diagnostic) : Prop where
  sliceable : ∀ f ∈ d.fixes, source.Sliceable f.span
  clear : d.fixes.Pairwise Fix.Clear

namespace Rule

variable {source : Source} {doc : Document}

theorem applicable_addFix {r : RuleName} {span : Span} {message : String} {fix : Fix}
    (sliceable : source.Sliceable fix.span) :
    ((r.warning span message).addFix fix).Applicable source :=
  ⟨fun f member => by rwa [List.mem_singleton.mp member], List.pairwise_singleton _ _⟩

/-! ### Attributes -/

theorem flatMap_attributes_applicable {o : Opening} {check : Attribute → List Diagnostic}
    (placed : ∀ a ∈ o.attributes, a.Placed source)
    (each : ∀ a, a.Placed source → ∀ d ∈ check a, d.Applicable source) :
    ∀ d ∈ o.attributes.flatMap check, d.Applicable source := by
  intro d said
  obtain ⟨a, member, said⟩ := List.mem_flatMap.mp said
  exact each a (placed a member) d said

theorem booleanValueOf_applicable (usage : Usage) {a : Attribute} (placed : a.Placed source) :
    ∀ d ∈ booleanValueOf usage a, d.Applicable source := by
  intro d said
  unfold booleanValueOf at said
  split at said
  · split at said
    · obtain rfl := List.mem_singleton.mp said
      exact applicable_addFix (Source.sliceable_point placed.sliceable.stops)
    · cases said
  · split at said
    · obtain rfl := List.mem_singleton.mp said
      exact applicable_addFix ⟨placed.inside, placed.name.stops, placed.sliceable.stops⟩
    · cases said

theorem bracePresenceOf_applicable (usage : Usage) {a : Attribute} (placed : a.Placed source) :
    ∀ d ∈ bracePresenceOf usage doc a, d.Applicable source := by
  intro d said
  unfold bracePresenceOf at said
  split at said
  · split at said
    · cases said
    · rename_i span text given
      obtain rfl := List.mem_singleton.mp said
      obtain ⟨value, held, shape⟩ := Option.bind_eq_some_iff.mp given
      split at shape
      · cases shape
        exact applicable_addFix (placed.value _ held)
      · cases shape
  · split at said
    · rename_i container text braces _
      obtain rfl := List.mem_singleton.mp said
      exact applicable_addFix (placed.value container (Node.container?_eq_some braces).1)
    · cases said

theorem around_applicable (usage : Usage) {nameStop equals valueStart : Nat}
    (named : doc.source.isBoundary nameStop = true)
    (behind : doc.source.isBoundary (equals + 1) = true) :
    ∀ d ∈ EqualsSpacing.around usage doc nameStop equals valueStart, d.Applicable doc.source := by
  intro d said
  unfold EqualsSpacing.around at said
  dsimp only at said
  split at said
  · rcases List.mem_append.mp said with said | said
    · split at said
      · obtain rfl := List.mem_singleton.mp said
        exact applicable_addFix (Source.sliceable_point named)
      · cases said
    · split at said
      · obtain rfl := List.mem_singleton.mp said
        exact applicable_addFix (Source.sliceable_point behind)
      · cases said
  · rcases List.mem_append.mp said with said | said
    · obtain ⟨gap, found, rfl⟩ := List.mem_map.mp said
      exact applicable_addFix (sliceable_of_whitespaceGap (Option.mem_toList.mp found))
    · obtain ⟨gap, found, rfl⟩ := List.mem_map.mp said
      exact applicable_addFix (sliceable_of_whitespaceGap (Option.mem_toList.mp found))

theorem equalsSpacingOf_applicable (usage : Usage) {a : Attribute} (placed : a.Placed doc.source) :
    ∀ d ∈ EqualsSpacing.ofAttribute usage doc a, d.Applicable doc.source := by
  intro d said
  unfold EqualsSpacing.ofAttribute at said
  split at said
  · cases said
  · split at said
    · cases said
    · rename_i equals found
      have behind := (Source.isBoundary_of_hasAt (findToken_spec found).2.2 (k := 0) (b := 61)
        (by decide) (by decide)).2
      exact around_applicable usage placed.name.stops behind d said

theorem equalsSpacing_applicable (options : SpacingOptions) {o : Opening}
    (placed : ∀ a ∈ o.attributes, a.Placed doc.source) :
    ∀ d ∈ equalsSpacing options doc o, d.Applicable doc.source := by
  unfold equalsSpacing
  split
  · exact fun d said => (List.not_mem_nil said).elim
  · exact flatMap_attributes_applicable placed fun a => equalsSpacingOf_applicable _

/-! ### Elements -/

theorem spaceBeforeTrailingSlash_applicable (e : Element) :
    ∀ d ∈ spaceBeforeTrailingSlash doc e, d.Applicable doc.source := by
  intro d said
  unfold spaceBeforeTrailingSlash at said
  split at said
  · dsimp only at said
    split at said
    · rename_i c before
      split at said
      · cases said
      · obtain rfl := List.mem_singleton.mp said
        exact applicable_addFix (Source.sliceable_point (Source.isBoundary_of_charBefore? before))
    · cases said
  · cases said

theorem selfClose_applicable {e : Element} (placed : e.Placed source) :
    ∀ d ∈ selfClose doc e, d.Applicable source := by
  intro d said
  unfold selfClose at said
  split at said
  · cases said
  · rename_i closing closed
    split at said
    · obtain rfl := List.mem_singleton.mp said
      obtain ⟨sliceable, follows, _⟩ := placed.closing closing closed
      refine applicable_addFix ⟨?_, placed.bracket, sliceable.stops⟩
      have ordered := sliceable.ordered
      dsimp only
      omega
    · cases said

theorem preferFragment_applicable (options : PreferFragmentOptions) {e : Element}
    (placed : e.Placed source) : ∀ d ∈ preferFragment options e, d.Applicable source := by
  intro d said
  unfold preferFragment at said
  split at said
  · rename_i kind span closingName rest closed
    split at said
    · obtain rfl := List.mem_singleton.mp said
      obtain ⟨_, follows, names⟩ := placed.closing _ closed
      obtain ⟨sliceable, inside⟩ := names closingName List.mem_cons_self
      constructor
      · intro f member
        rcases List.mem_cons.mp member with rfl | member
        · exact placed.name
        · obtain rfl := List.mem_singleton.mp member
          exact sliceable
      · refine List.pairwise_pair.mpr (Or.inl ⟨?_, ?_⟩)
        · have ends := placed.nameInside
          dsimp only at *
          omega
        · have ends := placed.nameInside
          have ordered := placed.name.ordered
          dsimp only at *
          omega
    · cases said
  · cases said

/-! ### Braces and text -/

theorem braceSpacing_check_applicable (options : SpacingOptions) {t : BraceSpacing.Tokens}
    (opened : doc.source.isBoundary t.first.stop = true)
    (closed : doc.source.isBoundary t.last.start = true) :
    ∀ d ∈ BraceSpacing.check options doc t, d.Applicable doc.source := by
  have one : ∀ {span message} {fix : Fix}, doc.source.Sliceable fix.span →
      (BraceSpacing.warning span message [fix]).Applicable doc.source :=
    fun sliceable => applicable_addFix sliceable
  intro d said
  unfold BraceSpacing.check at said
  split at said
  · rcases List.mem_append.mp said with said | said
    · split at said
      · obtain rfl := List.mem_singleton.mp said
        exact one (Source.sliceable_point opened)
      · cases said
    · split at said
      · obtain rfl := List.mem_singleton.mp said
        exact one (Source.sliceable_point closed)
      · cases said
  · rcases List.mem_append.mp said with said | said
    · split at said
      · rename_i gap found
        split at said
        · cases said
        · obtain rfl := List.mem_singleton.mp said
          exact one (sliceable_of_whitespaceGap found)
      · cases said
    · split at said
      · rename_i gap found
        split at said
        · cases said
        · obtain rfl := List.mem_singleton.mp said
          split
          · exact ⟨fun f member => (List.not_mem_nil member).elim, List.Pairwise.nil⟩
          · exact one (sliceable_of_whitespaceGap found)
      · cases said
  · cases said

theorem braceSpacing_applicable (options : SpacingOptions) {span : Span} (content : Node)
    (opened : doc.source.isBoundary (span.start + 1) = true)
    (closed : doc.source.isBoundary (span.stop - 1) = true) :
    ∀ d ∈ braceSpacing options doc span content, d.Applicable doc.source := by
  unfold braceSpacing BraceSpacing.containerTokens
  split
  · exact braceSpacing_check_applicable options opened closed
  · exact braceSpacing_check_applicable options opened closed

theorem spreadSpacing_applicable (options : SpacingOptions) {span : Span} (value : Node)
    (opened : doc.source.isBoundary (span.start + 1) = true)
    (closed : doc.source.isBoundary (span.stop - 1) = true) :
    ∀ d ∈ spreadSpacing options doc span value, d.Applicable doc.source := by
  intro d said
  unfold spreadSpacing at said
  split at said
  · rename_i tokens spread
    obtain ⟨dots, _, same⟩ := Option.bind_eq_some_iff.mp spread
    cases same
    exact braceSpacing_check_applicable options opened closed d said
  · cases said

theorem whitespaceLiteral_applicable (span : Span) :
    ∀ d ∈ whitespaceLiteral doc span, d.Applicable doc.source := by
  intro d said
  obtain ⟨⟨offset, count⟩, isRun, rfl⟩ := List.mem_map.mp said
  unfold Document.text Source.slice at isRun
  cases sliced : doc.source.slice? span.start span.stop with
  | none =>
    rw [sliced, Option.getD_none, NonBreakingSpace.runsOf_eq_nil_of_isBlankText (by decide)] at isRun
    cases isRun
  | some text =>
    rw [sliced, Option.getD_some] at isRun
    have run := NonBreakingSpace.sliceable_of_mem_runsOf isRun
    refine applicable_addFix ⟨Nat.le_add_right _ _, ?_, ?_⟩
    · exact Source.isBoundary_of_slice? sliced run.starts
    · dsimp only
      rw [Nat.add_assoc]
      exact Source.isBoundary_of_slice? sliced run.stops

end Rule

/-! ### All rules -/

namespace Visit

variable {source : Source} {v : Visit}

theorem onOpening_applicable {check : Opening → List Diagnostic}
    (placed : v.node.WellPlaced source)
    (each : ∀ o, (∀ a ∈ o.attributes, a.Placed source) → ∀ d ∈ check o, d.Applicable source) :
    ∀ d ∈ v.onOpening check, d.Applicable source := by
  intro d said
  unfold onOpening at said
  split at said
  · rename_i o view
    exact each o (fun a member => placed.attribute view member) d said
  · cases said

theorem onElement_applicable {check : Element → List Diagnostic}
    (placed : v.node.WellPlaced source) (delimited : v.node.WellDelimited source)
    (each : ∀ e, e.Placed source → ∀ d ∈ check e, d.Applicable source) :
    ∀ d ∈ v.onElement check, d.Applicable source := by
  intro d said
  unfold onElement at said
  split at said
  · rename_i e view
    exact each e (placed.element delimited view) d said
  · cases said

theorem onBraces_applicable {doc : Document} (options : SpacingOptions)
    (delimited : v.node.WellDelimited doc.source) :
    ∀ d ∈ v.onBraces (Rule.braceSpacing options doc) (Rule.spreadSpacing options doc),
      d.Applicable doc.source := by
  intro d said
  have root := delimited.root
  unfold onBraces at said
  split at said
  · rename_i span content shape
    rw [shape] at root
    obtain ⟨opened, closed⟩ := root.isBoundary_braces rfl
    exact Rule.braceSpacing_applicable options content opened closed d said
  · rename_i span value shape
    rw [shape] at root
    obtain ⟨opened, closed⟩ := root.isBoundary_braces rfl
    exact Rule.spreadSpacing_applicable options value opened closed d said
  · rename_i span value shape
    rw [shape] at root
    obtain ⟨opened, closed⟩ := root.isBoundary_braces rfl
    exact Rule.spreadSpacing_applicable options value opened closed d said
  · cases said

theorem onText_applicable {doc : Document} :
    ∀ d ∈ v.onText (Rule.whitespaceLiteral doc), d.Applicable doc.source := by
  intro d said
  unfold onText at said
  split at said
  · exact Rule.whitespaceLiteral_applicable _ d said
  · cases said

end Visit

/-- The fixes of every rule split no character and are clear of each other. -/
theorem RuleName.check_applicable (r : RuleName) (options : r.Options) {doc : Document} {v : Visit}
    (position : Position) (placed : v.node.WellPlaced doc.source)
    (delimited : v.node.WellDelimited doc.source) :
    ∀ d ∈ r.check options doc v position, d.Applicable doc.source := by
  intro d said
  by_cases none : d.fixes = []
  · exact ⟨by simp [none], by simp [none]⟩
  have fixing := (r.check_issues options doc v position d said).fixes none
  cases r with
  | jsxBooleanValue =>
    exact Visit.onOpening_applicable placed
      (fun o placed => Rule.flatMap_attributes_applicable placed fun a =>
        Rule.booleanValueOf_applicable _) d said
  | jsxCurlyBracePresence =>
    exact Visit.onOpening_applicable placed
      (fun o placed => Rule.flatMap_attributes_applicable placed fun a =>
        Rule.bracePresenceOf_applicable _) d said
  | jsxCurlySpacing => exact Visit.onBraces_applicable _ delimited d said
  | jsxEqualsSpacing =>
    exact Visit.onOpening_applicable placed
      (fun o placed => Rule.equalsSpacing_applicable _ placed) d said
  | jsxPreferFragment =>
    exact Visit.onElement_applicable placed delimited
      (fun e placed => Rule.preferFragment_applicable _ placed) d said
  | jsxSelfClose =>
    exact Visit.onElement_applicable placed delimited
      (fun e placed => Rule.selfClose_applicable placed) d said
  | jsxSpaceBeforeTrailingSlash =>
    exact Visit.onElement_applicable placed delimited
      (fun e _ => Rule.spaceBeforeTrailingSlash_applicable e) d said
  | jsxWhitespaceLiteral => exact Visit.onText_applicable d said
  | _ => cases fixing

end JsxCheck
