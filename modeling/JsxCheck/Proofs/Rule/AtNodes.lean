import JsxCheck.Lint.NamePass
import JsxCheck.Proofs.Rule.ElementsOnce
import JsxCheck.Proofs.Rule.PartsOnce
import JsxCheck.Proofs.Rule.SearchedTwice

/-!
Rules that point at nodes.

All but five rules point at nodes of the tree they look at, as `check_shows` says, and so do the rules
that resolve names, which may point far away from the node they look at (`checkResolved_shows`).
-/
namespace JsxCheck

open Node Visit

/-- All that is said points at nodes of a tree. -/
def Node.Shows (n : Node) (said : List Diagnostic) : Prop :=
  ∀ d ∈ said, ∃ m ∈ n.preorder, m.span = d.span

namespace Node

variable {n m : Node} {said told : List Diagnostic} {d : Diagnostic}

theorem Shows.nil : Shows n [] := fun _ member => (List.not_mem_nil member).elim

theorem Shows.one (inside : m ∈ n.preorder) (span : m.span = d.span) : Shows n [d] := by
  intro e member
  obtain rfl := List.mem_singleton.mp member
  exact ⟨m, inside, span⟩

theorem Shows.self (span : n.span = d.span) : Shows n [d] := .one n.self_mem_preorder span

theorem Shows.append (first : Shows n said) (second : Shows n told) : Shows n (said ++ told) :=
  fun d member => (List.mem_append.mp member).elim (first d) (second d)

theorem Shows.flatMap {α : Type} {l : List α} {f : α → List Diagnostic}
    (each : ∀ a ∈ l, Shows n (f a)) : Shows n (l.flatMap f) := by
  intro d member
  obtain ⟨a, inside, said⟩ := List.mem_flatMap.mp member
  exact each a inside d said

theorem Shows.ite {p : Prop} [Decidable p] (shows_ : Shows n said) :
    Shows n (if p then said else []) := by
  split
  · exact shows_
  · exact .nil

theorem Shows.lift (shows_ : Shows m said) (inside : m ∈ n.preorder) : Shows n said := by
  intro d member
  obtain ⟨x, below, span⟩ := shows_ d member
  exact ⟨x, preorder_trans below inside, span⟩

theorem Shows.of_spans (each : ∀ s ∈ spansOf said, ∃ m ∈ n.preorder, m.span = s) : Shows n said :=
  fun d member => each d.span (List.mem_map_of_mem member)

theorem Shows.warnAt {r : RuleName} {message : String} {nodes : List Node}
    (inside : ∀ x ∈ nodes, x ∈ n.preorder) : Shows n (Rule.warnAt r message nodes) := by
  intro d member
  obtain ⟨x, listed, rfl⟩ := List.mem_map.mp member
  exact ⟨x, inside x listed, rfl⟩

/-! ### The parts of tags -/

variable {o : Opening} {a : Attribute}

theorem name_mem (view : n.opening? = some o) : o.name ∈ n.preorder := by
  obtain ⟨_, name, rest, parts, rfl⟩ := opening?_eq_some view
  exact mem_preorder_of_child (by rw [parts]; exact List.mem_cons_self)

theorem exists_item {item : AttributeItem} (view : n.opening? = some o) (listed : item ∈ o.items) :
    ∃ m ∈ n.preorder, m.span = item.span := by
  obtain ⟨c, child, isItem⟩ := mem_items view listed
  exact ⟨c, mem_preorder_of_child child, (item_span isItem).symm⟩

theorem exists_attribute (view : n.opening? = some o) (listed : a ∈ o.attributes) :
    ∃ m ∈ n.preorder, m.span = a.span := by
  obtain ⟨c, child, named⟩ := mem_attributes view listed
  exact ⟨c, mem_preorder_of_child child, (item_span named).symm⟩

theorem exists_name (view : n.opening? = some o) (listed : a ∈ o.attributes) :
    ∃ m ∈ n.preorder, m.span = a.nameSpan := by
  obtain ⟨c, child, named⟩ := mem_attributes view listed
  obtain ⟨_, name, _, parts, rfl⟩ := attributeItem?_eq_named named
  have part : name ∈ c.children := by rw [parts]; exact List.mem_cons_self
  exact ⟨name, preorder_trans (mem_preorder_of_child part) (mem_preorder_of_child child), rfl⟩

theorem value_mem_preorder {value : Node} (view : n.opening? = some o) (listed : a ∈ o.attributes)
    (given : a.value = some value) : value ∈ n.preorder := by
  obtain ⟨c, child, named⟩ := mem_attributes view listed
  exact preorder_trans (mem_preorder_of_child (value_mem named given).2) (mem_preorder_of_child child)

theorem expression_mem_preorder {e : Node} (view : n.opening? = some o) (listed : a ∈ o.attributes)
    (given : a.expression? = some e) : e ∈ n.preorder := by
  obtain ⟨_, container, held, _, parts⟩ := expression?_eq_some given
  refine preorder_trans (mem_preorder_of_child ?_) (value_mem_preorder view listed held)
  rw [parts]
  exact List.mem_singleton_self e

theorem mem_values_preorder {x : Node} (view : n.opening? = some o)
    (listed : x ∈ o.attributes.filterMap fun a => a.expression?.map unwrapParens) :
    x ∈ n.preorder := by
  obtain ⟨a, isAttribute, found⟩ := List.mem_filterMap.mp listed
  obtain ⟨e, given, rfl⟩ := Option.map_eq_some_iff.mp found
  exact preorder_trans (unwrapParens_mem e) (expression_mem_preorder view isAttribute given)

theorem searchedValues_mem_preorder {p : Node → Bool} {leaveOut : Attribute → Bool} {x : Node}
    (view : n.opening? = some o) (found : x ∈ Rule.searchedValues p leaveOut o) :
    x ∈ n.preorder := by
  obtain ⟨value, searched, matched⟩ := Rule.mem_searchedValues.mp found
  exact preorder_trans (mem_matching.mp matched).1.inside (Opening.mem_searched view searched)

end Node

namespace Visit

variable {v : Visit}

theorem mem_onOpening_iff {check : Opening → List Diagnostic} {d : Diagnostic} :
    d ∈ v.onOpening check ↔ ∃ o ∈ v.node.opening?, d ∈ check o := by
  unfold onOpening
  cases v.node.opening? <;> simp

theorem mem_onElement_iff {check : Element → List Diagnostic} {d : Diagnostic} :
    d ∈ v.onElement check ↔ ∃ e ∈ v.node.element?, d ∈ check e := by
  unfold onElement
  cases v.node.element? <;> simp

theorem mem_onForm_iff {form : Expr} {check : Node → List Diagnostic} {d : Diagnostic} :
    d ∈ v.onForm form check ↔ v.node.form? = some form ∧ d ∈ check v.node := by
  unfold onForm
  split <;> simp_all

theorem shows_onOpening {check : Opening → List Diagnostic}
    (each : ∀ o, v.node.opening? = some o → Shows v.node (check o)) :
    Shows v.node (v.onOpening check) := by
  unfold onOpening
  split
  · rename_i o view
    exact each o view
  · exact .nil

theorem shows_onAttributes {check : Attribute → List Diagnostic}
    (each : ∀ o a, v.node.opening? = some o → a ∈ o.attributes → Shows v.node (check a)) :
    Shows v.node (v.onOpening fun o => o.attributes.flatMap check) :=
  shows_onOpening fun o view => .flatMap fun a listed => each o a view listed

theorem shows_onElement {check : Element → List Diagnostic}
    (each : ∀ e, v.node.element? = some e → Shows v.node (check e)) :
    Shows v.node (v.onElement check) := by
  unfold onElement
  split
  · rename_i e view
    exact each e view
  · exact .nil

theorem shows_onForm {form : Expr} {check : Node → List Diagnostic}
    (each : Shows v.node (check v.node)) : Shows v.node (v.onForm form check) := .ite each

end Visit

namespace Rule

variable {n : Node} {o : Opening} {a : Attribute}

/-! ### Tags -/

theorem booleanValueOf_shows (usage : Usage) (view : n.opening? = some o)
    (listed : a ∈ o.attributes) : Shows n (booleanValueOf usage a) := by
  obtain ⟨m, inside, span⟩ := exists_attribute view listed
  unfold booleanValueOf
  split
  · exact .ite (.one inside span)
  · split
    · exact .one inside span
    · exact .nil

theorem bracePresenceOf_shows (usage : Usage) (doc : Document) (view : n.opening? = some o)
    (listed : a ∈ o.attributes) : Shows n (bracePresenceOf usage doc a) := by
  unfold bracePresenceOf
  split
  · split
    · exact .nil
    · rename_i string
      obtain ⟨value, given, span⟩ := string?_eq_some string
      exact .one (value_mem_preorder view listed given) span
  · split
    · rename_i container _ braces _
      exact .one (value_mem_preorder view listed (container?_eq_some braces).1) rfl
    · exact .nil

theorem stringRef_shows (r : RuleName) (view : n.opening? = some o) : Shows n (stringRef r o) := by
  unfold stringRef
  split
  · rename_i span found
    obtain ⟨a, first, string⟩ := Option.bind_eq_some_iff.mp found
    obtain ⟨value, given, same⟩ := stringSpan?_eq_some string
    exact .one (value_mem_preorder view (List.mem_of_find?_eq_some first) given) same
  · exact .nil

theorem sortProps_shows (options : SortPropsOptions) (view : n.opening? = some o) :
    Shows n (sortProps options o) := by
  intro d said
  obtain ⟨item, listed, spans⟩ := firstFailure_span (Option.mem_toList.mp said)
  rcases spans with whole | ⟨a, rfl, name⟩
  · rw [whole]
    exact exists_item view listed
  · rw [name]
    exact exists_name view (List.mem_filterMap.mpr ⟨_, listed, rfl⟩)

theorem banElements_shows (options : BanElementsOptions) (doc : Document)
    (view : n.opening? = some o) : Shows n (banElements options doc o) := by
  unfold banElements
  dsimp only
  split
  · exact .nil
  · exact .one (name_mem view) rfl

theorem banProps_shows (options : BanPropsOptions) (view : n.opening? = some o) :
    Shows n (banProps options o) := by
  refine .flatMap fun a listed => ?_
  obtain ⟨m, inside, span⟩ := exists_name view listed
  split
  · exact .nil
  · exact .one inside span

theorem translatedAttributes_shows (view : n.opening? = some o) :
    Shows n (translatedAttributes o) := by
  intro d said
  obtain ⟨span, shown, rfl⟩ := List.mem_map.mp said
  obtain ⟨a, listed, string⟩ := List.mem_filterMap.mp shown
  obtain ⟨value, given, same⟩ := shownValue?_eq_some string
  exact ⟨value, value_mem_preorder view (List.mem_of_mem_filter listed) given, same⟩

/-! ### Elements -/

theorem translatedChildren_shows (doc : Document) {e : Element} (view : n.element? = some e) :
    Shows n (translatedChildren doc e) := by
  obtain ⟨_, _, first, rest, parts, _, children, _⟩ := element?_eq_some view
  intro d said
  obtain ⟨span, shown, rfl⟩ := List.mem_map.mp said
  obtain ⟨c, listed, found⟩ := List.mem_filterMap.mp shown
  obtain ⟨same, _⟩ := shownChild?_eq_some found
  rw [children] at listed
  refine ⟨c, mem_preorder_of_child ?_, same.symm⟩
  rw [parts]
  exact List.mem_cons_of_mem _ (List.mem_of_mem_filter listed)

theorem preferFragment_shows (options : PreferFragmentOptions) {e : Element}
    (view : n.element? = some e) : Shows n (preferFragment options e) := by
  obtain ⟨_, _, first, rest, parts, isTag, _⟩ := element?_eq_some view
  have child : first ∈ n.children := by rw [parts]; exact List.mem_cons_self
  unfold preferFragment
  split
  · exact .ite (.one (preorder_trans (name_mem isTag) (mem_preorder_of_child child)) rfl)
  · exact .nil

theorem selfClose_shows (doc : Document) {e : Element} (view : n.element? = some e) :
    Shows n (selfClose doc e) := by
  unfold selfClose
  split
  · exact .nil
  · exact .ite (.self (element?_eq_some view).2.1.symm)

theorem spaceBeforeTrailingSlash_shows (doc : Document) {e : Element}
    (view : n.element? = some e) : Shows n (spaceBeforeTrailingSlash doc e) := by
  unfold spaceBeforeTrailingSlash
  refine .ite ?_
  dsimp only
  split
  · split
    · exact .nil
    · exact .self (element?_eq_some view).2.1.symm
  · exact .nil

theorem wrapMulitlines_shows (doc : Document) {e : Element} (position : Position)
    (view : n.element? = some e) : Shows n (wrapMulitlines doc e position) := by
  refine .ite ?_
  split
  · exact .nil
  · exact .self (element?_eq_some view).2.1.symm

theorem noUnnecessaryFragmentElement_shows (doc : Document) {e : Element}
    (view : n.element? = some e) : Shows n (noUnnecessaryFragmentElement doc e) := by
  have span := (element?_eq_some view).2.1
  refine .ite ?_
  split
  · exact .self span.symm
  · exact .ite (.self span.symm)

/-! ### Other nodes -/

theorem missing_shows (n : Node) : Shows n (Keys.missing n) :=
  .of_spans fun _ said => ⟨n, n.self_mem_preorder, (Keys.mem_missing said).2.symm⟩

theorem keysOfArray_shows (n : Node) : Shows n (keysOfArray n) :=
  .flatMap fun c listed =>
    (missing_shows c).lift (mem_preorder_of_child (List.mem_of_mem_filter listed))

theorem keyOfMapCall_shows (n : Node) : Shows n (keyOfMapCall n) := by
  unfold keyOfMapCall
  split
  · rename_i value found
    obtain ⟨argument, isArgument, returned⟩ := Option.bind_eq_some_iff.mp found
    have inside : value ∈ n.preorder :=
      preorder_trans (Keys.returned?_eq_some_iff.mp returned).mem_preorder
        (Keys.mapArgument?_eq_some_iff.mp isArgument).mem_preorder
    exact .ite ((missing_shows _).lift (preorder_trans (unwrapParens_mem value) inside))
  · exact .nil

theorem noAccessState_shows (doc : Document) (n : Node) : Shows n (noAccessState doc n) := by
  unfold noAccessState
  split
  · exact .ite (.self rfl)
  · exact .nil

theorem implementScu_shows (doc : Document) (n : Node) : Shows n (implementScu doc n) := by
  unfold implementScu
  split
  · exact .ite (.self rfl)
  · exact .nil

theorem namedPropInterface_shows (doc : Document) (n : Node) :
    Shows n (namedPropInterface doc n) := by
  unfold namedPropInterface
  split
  · exact .ite (.self rfl)
  · exact .nil

theorem propSorting_shows (compare : String → String → Ordering) (doc : Document) (n : Node) :
    Shows n (propSorting compare doc n) := by
  refine .of_spans fun s said => ?_
  obtain ⟨_, body, isBody, _, c, member, _, rfl⟩ := mem_propSorting said
  exact ⟨c, preorder_trans (mem_preorder_of_child member) (mem_preorder_of_child isBody), rfl⟩

theorem primitiveAttributes_shows (doc : Document) (n : Node) :
    Shows n (primitiveAttributes doc n) := by
  unfold primitiveAttributes
  split
  · rename_i name props view
    refine .ite ?_
    dsimp only
    intro d said
    obtain ⟨type, kept, rfl⟩ := List.mem_map.mp said
    obtain ⟨c, listed, typed⟩ := List.mem_filterMap.mp (List.mem_of_mem_filter kept)
    obtain ⟨_, member⟩ := mem_getD_typeLiteral? listed
    obtain ⟨_, part, isPart, _, isType⟩ := propertyType?_eq_some typed
    obtain ⟨_, arguments⟩ := typeReference?_eq_some view
    have given : props ∈ n.children.tail.flatMap Node.children := by
      rw [← arguments]
      exact List.mem_singleton_self props
    obtain ⟨holder, follows, isProps⟩ := List.mem_flatMap.mp given
    refine ⟨type, ?_, rfl⟩
    exact preorder_trans (mem_preorder_of_child (by rw [isType]; exact List.mem_singleton_self type)) <|
      preorder_trans (mem_preorder_of_child isPart) <|
      preorder_trans (mem_preorder_of_child member) <|
      preorder_trans (mem_preorder_of_child isProps) <|
      mem_preorder_of_child (List.mem_of_mem_tail follows)
  · exact .nil

theorem noProptypes_shows (n : Node) : Shows n (noProptypes n) :=
  .of_spans fun _ said => ⟨n, n.self_mem_preorder, (mem_noProptypes said).2.symm⟩

end Rule

/-! ### All rules of the walk -/

namespace RuleName

/-- The rule points at nodes, and at nothing else. -/
def pointsAtNodes : RuleName → Bool
  | jsxAlignment | jsxCurlySpacing | jsxEqualsSpacing | jsxWhitespaceLiteral | jsxWrapMultiline => false
  | _ => true

theorem check_shows (r : RuleName) (options : r.Options) (doc : Document) (v : Visit)
    (position : Position) (atNodes : r.pointsAtNodes = true) :
    Shows v.node (r.check options doc v position) := by
  cases r with
  | componentNoProptypes => exact Rule.noProptypes_shows v.node
  | jsxBanElements => exact shows_onOpening fun o => Rule.banElements_shows options doc
  | jsxBanProps => exact shows_onOpening fun o => Rule.banProps_shows options
  | jsxBooleanValue => exact shows_onAttributes fun o a => Rule.booleanValueOf_shows _
  | jsxCurlyBracePresence => exact shows_onAttributes fun o a => Rule.bracePresenceOf_shows _ doc
  | jsxKey =>
    exact (shows_onForm (Rule.keysOfArray_shows _)).append (shows_onForm (Rule.keyOfMapCall_shows _))
  | jsxNamedPropInterface => exact Rule.namedPropInterface_shows doc v.node
  | jsxNoArrayLiteralProps | jsxNoLambda =>
    exact shows_onOpening fun o view => .warnAt fun x listed =>
      mem_values_preorder view (List.mem_of_mem_filter listed)
  | jsxNoBind =>
    refine shows_onOpening fun o view => .warnAt fun x listed => ?_
    obtain ⟨a, isAttribute, given⟩ := List.mem_filterMap.mp (List.mem_of_mem_filter listed)
    exact expression_mem_preorder view isAttribute given
  | jsxNoBindProps | jsxNoJsxLiteralProps | jsxNoLambdaProps | jsxNoObjectLiteralProps =>
    exact shows_onOpening fun o view => .warnAt fun x found => searchedValues_mem_preorder view found
  | jsxNoMethodRef | reactPureComponentsHaveSimpleAttributes => exact .nil
  | jsxNoMultilineJs =>
    unfold check onContainer
    dsimp only
    split
    · exact .ite (.self rfl)
    · exact .nil
  | jsxNoStringRef | noStringRef => exact shows_onOpening fun o => Rule.stringRef_shows _
  | jsxPreferFragment => exact shows_onElement fun e => Rule.preferFragment_shows options
  | jsxPropSorting => exact Rule.propSorting_shows _ doc v.node
  | jsxSelfClose => exact shows_onElement fun e => Rule.selfClose_shows doc
  | jsxSortProps => exact shows_onOpening fun o => Rule.sortProps_shows options
  | jsxSpaceBeforeTrailingSlash =>
    exact shows_onElement fun e => Rule.spaceBeforeTrailingSlash_shows doc
  | jsxUseTranslationFunction =>
    exact (shows_onOpening fun o => Rule.translatedAttributes_shows).append
      (shows_onElement fun e => Rule.translatedChildren_shows doc)
  | jsxWrapMulitlines => exact shows_onElement fun e => Rule.wrapMulitlines_shows doc position
  | noAccessStateInSetstate => exact shows_onForm (Rule.noAccessState_shows doc v.node)
  | reactComponentClassesShouldImplementScu => exact Rule.implementScu_shows doc v.node
  | reactNoUnnecessaryFragment =>
    refine (shows_onElement fun e => Rule.noUnnecessaryFragmentElement_shows doc).append ?_
    unfold onFragment
    split
    · exact .ite (.self rfl)
    · exact .nil
  | reactPureComponentsHavePrimitiveAttributes => exact Rule.primitiveAttributes_shows doc v.node
  | jsxAlignment | jsxCurlySpacing | jsxEqualsSpacing | jsxWhitespaceLiteral | jsxWrapMultiline =>
    cases atNodes

end RuleName

/-! ### Rules that resolve names -/

section Resolving

variable {root : Node} {v : Visit}

theorem Resolver.declared_mem {declaration : Declaration}
    (resolved : (Resolver.ofProgram root).resolveReference v = some declaration) :
    declaration.visit.node ∈ root.preorder := by
  unfold resolveReference at resolved
  split at resolved
  · obtain ⟨b, looked, declares⟩ := Option.bind_eq_some_iff.mp resolved
    obtain ⟨scope, _, found⟩ := List.exists_of_findSome?_eq_some looked
    dsimp only at found
    split at found
    · have bound := List.mem_of_mem_filter (List.mem_of_mem_head? found)
      obtain ⟨w, visited, binds⟩ := List.mem_filterMap.mp bound
      unfold Binding.ofVisit? at binds
      split at binds
      · split at binds
        · rename_i owner above shape
          obtain rfl := Option.some.inj binds
          obtain ⟨kind, _, rfl⟩ := Option.map_eq_some_iff.mp declares
          refine Visit.ancestor_mem_preorder visited ?_
          have kept : owner ∈ w.ancestors.dropWhile Node.isPattern := by
            rw [shape]
            exact List.mem_cons_self
          exact (List.dropWhile_sublist _).mem kept
        · cases binds
      · obtain ⟨name, _, rfl⟩ := Option.map_eq_some_iff.mp binds
        cases declares
      · cases binds
    · cases found
  · cases resolved

theorem Visit.child_mem {w : Visit} (child : w ∈ v.children) (inside : v.node ∈ root.preorder) :
    w.node ∈ root.preorder := by
  obtain ⟨c, member, rfl⟩ := List.mem_map.mp child
  exact preorder_trans (mem_preorder_of_child member) inside

namespace Rule.SimpleProps

variable {w : Visit}

theorem firstTypeArgument?_mem (found : firstTypeArgument? v = some w)
    (inside : v.node ∈ root.preorder) : w.node ∈ root.preorder := by
  obtain ⟨arguments, first, head⟩ := Option.bind_eq_some_iff.mp found
  exact child_mem (List.mem_of_mem_head? head) (child_mem (List.mem_of_find?_eq_some first) inside)

theorem literalMembers_mem (listed : w ∈ literalMembers v) (inside : v.node ∈ root.preorder) :
    w.node ∈ root.preorder := by
  unfold literalMembers at listed
  split at listed
  · exact child_mem listed inside
  · cases listed

theorem interfaceMembers_mem (listed : w ∈ interfaceMembers v) (inside : v.node ∈ root.preorder) :
    w.node ∈ root.preorder := by
  obtain ⟨part, isPart, held⟩ := List.mem_flatMap.mp listed
  split at held
  · exact child_mem held (child_mem isPart inside)
  · cases held

theorem membersOf_mem (listed : w ∈ membersOf (.ofProgram root) v)
    (inside : v.node ∈ root.preorder) : w.node ∈ root.preorder := by
  have declared : ∀ declaration, resolveType? (.ofProgram root) v = some declaration →
      declaration.visit.node ∈ root.preorder := by
    intro declaration resolved
    unfold resolveType? at resolved
    split at resolved
    · obtain ⟨name, _, resolved⟩ := Option.bind_eq_some_iff.mp resolved
      exact Resolver.declared_mem resolved
    · cases resolved
  unfold membersOf at listed
  split at listed
  · rename_i resolved
    exact interfaceMembers_mem listed (declared _ resolved)
  · rename_i aliased resolved
    cases last : aliased.children.getLast? with
    | none =>
      rw [last] at listed
      cases listed
    | some type =>
      rw [last] at listed
      exact literalMembers_mem listed
        (child_mem (List.mem_of_getLast? last) (declared _ resolved))
  · exact literalMembers_mem listed inside

theorem memberType?_mem (typed : memberType? v = some w) (inside : v.node ∈ root.preorder) :
    w.node ∈ root.preorder := by
  unfold memberType? at typed
  split at typed
  · obtain ⟨part, found, head⟩ := Option.bind_eq_some_iff.mp typed
    exact child_mem (List.mem_of_mem_head? head) (child_mem (List.mem_of_find?_eq_some found) inside)
  · cases typed

/-- The properties of a component are declared where it is. -/
theorem props_mem {doc : Document} (component : (ofClass? doc v <|> ofTypeReference? doc v) = some w)
    (inside : v.node ∈ root.preorder) : w.node ∈ root.preorder := by
  have ofClass : ∀ w, ofClass? doc v = some w → w.node ∈ root.preorder := by
    intro w found
    unfold ofClass? at found
    split at found
    · obtain ⟨part, isPart, argument⟩ := Option.bind_eq_some_iff.mp found
      exact firstTypeArgument?_mem argument (child_mem (List.mem_of_find?_eq_some isPart) inside)
    · cases found
  cases found : ofClass? doc v with
  | some props =>
    rw [found] at component
    obtain rfl : props = w := Option.some.inj component
    exact ofClass props found
  | none =>
    rw [found] at component
    change ofTypeReference? doc v = some w at component
    unfold ofTypeReference? at component
    split at component
    · split at component
      · exact firstTypeArgument?_mem component inside
      · cases component
    · cases component

end Rule.SimpleProps

/-- Rules that resolve names point at nodes of the program. -/
theorem RuleName.checkResolved_shows (r : RuleName) (doc : Document) (thisMethods : List String)
    (visited : v ∈ root.visits) : Shows root (r.checkResolved (.ofProgram root) doc thisMethods v) := by
  have inside := Visit.node_mem_preorder visited
  cases r with
  | jsxNoMethodRef =>
    refine Shows.lift (shows_onOpening fun o view => ?_) inside
    intro d said
    obtain ⟨value, listed, rfl⟩ := List.mem_map.mp said
    exact ⟨value, mem_values_preorder view (List.mem_of_mem_filter listed), rfl⟩
  | reactPureComponentsHaveSimpleAttributes =>
    change Shows root (Rule.simpleAttributes _ _ _)
    unfold Rule.simpleAttributes
    split
    · rename_i props component
      intro d said
      obtain ⟨type, complex, rfl⟩ := List.mem_map.mp said
      obtain ⟨member, listed, typed⟩ := List.mem_filterMap.mp (List.mem_of_mem_filter complex)
      have inProps := Rule.SimpleProps.props_mem component inside
      have inMembers := Rule.SimpleProps.membersOf_mem listed inProps
      exact ⟨type.node, Rule.SimpleProps.memberType?_mem typed inMembers, rfl⟩
    · exact .nil
  | _ => exact .nil

end Resolving

end JsxCheck
