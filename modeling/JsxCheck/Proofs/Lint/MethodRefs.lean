import JsxCheck.Proofs.Lint.Reporter
import JsxCheck.Proofs.Rule.AtNodes
import JsxCheck.Proofs.Rule.Issued

/-!
Methods of the class around an element that are handed to its attributes.

`this` has the methods of the innermost class around an element, and of no other class that the pass
has been in. `checkResolved_reports_this_method_iff` says so of the reports: `this.name` is reported
exactly when that class declares a method of the name.
-/
namespace JsxCheck

open Node Visit

/-! ### Methods of a class -/

namespace Node

/-- `this.name` -/
def isThisMember (name : String) : Node → Bool
  | mk (.expr .member) _ [mk (.expr .this) _ _, mk (.name text) _ _] => text == name
  | _ => false

theorem isExpr_of_isThisMember {n : Node} {name : String} (isMember : n.isThisMember name = true) :
    n.isExpr = true ∧ n.expr? ≠ some .parenthesized := by
  unfold isThisMember at isMember
  split at isMember
  · exact ⟨rfl, nofun⟩
  · cases isMember

/-- The key spells a name out, bare or as a string. -/
def Spells (key : Node) (name : String) : Prop :=
  key.kind = .name name ∨ key.kind = .expr (.string name)

/-- The node is a plain method, whose key stands behind its decorators and spells the name. -/
def IsMethod (n : Node) (name : String) : Prop :=
  (∃ isStatic, n.kind = .method .method isStatic) ∧
    ∃ decorators key rest, n.children = decorators ++ key :: rest ∧
      (∀ d ∈ decorators, d.kind = .decorator) ∧ key.Spells name

/-- The body of the class has a plain method of the name. -/
def DeclaresMethod (class_ : Node) (name : String) : Prop :=
  ∃ body ∈ class_.children, body.kind = .classBody ∧ ∃ member ∈ body.children, member.IsMethod name

theorem keyName?_eq_some_iff {key : Node} {name : String} :
    key.keyName? = some name ↔ key.Spells name := by
  obtain ⟨k, s, cs⟩ := key
  unfold keyName? Spells
  split <;> simp_all [kind]

theorem isDecorator_iff {n : Node} : n.isDecorator = true ↔ n.kind = .decorator := by
  unfold isDecorator
  split <;> simp_all

theorem methodName?_eq_some_iff {n : Node} {name : String} :
    n.methodName? = some name ↔ n.IsMethod name := by
  obtain ⟨k, s, parts⟩ := n
  unfold methodName? IsMethod
  split
  · rename_i isStatic _ _ shape
    obtain ⟨rfl, rfl, rfl⟩ := mk.inj shape
    simp only [kind, children, Option.bind_eq_bind, Option.bind_eq_some_iff, keyName?_eq_some_iff,
      List.find?_eq_some_iff_append, Bool.not_eq_true', Bool.not_not]
    constructor
    · rintro ⟨key, ⟨_, decorators, rest, shape, before⟩, spells⟩
      exact ⟨⟨isStatic, rfl⟩, decorators, key, rest, shape,
        fun d member => isDecorator_iff.mp (before d member), spells⟩
    · rintro ⟨_, decorators, key, rest, shape, before, spells⟩
      have isKey : key.isDecorator = false := by
        unfold isDecorator
        rcases spells with kind | kind <;> rw [kind]
      exact ⟨key, ⟨isKey, decorators, rest, shape,
        fun d member => isDecorator_iff.mpr (before d member)⟩, spells⟩
  · rename_i other
    simp only [reduceCtorEq, kind, false_iff, not_and]
    rintro ⟨isStatic, rfl⟩
    exact absurd rfl (other isStatic s parts)

theorem mem_methodNames_iff {class_ : Node} {name : String} :
    name ∈ class_.methodNames ↔ class_.DeclaresMethod name := by
  unfold methodNames classMembers DeclaresMethod
  simp only [List.mem_filterMap, List.mem_flatMap, methodName?_eq_some_iff]
  constructor
  · rintro ⟨member, ⟨body, part, inBody⟩, isMethod⟩
    split at inBody
    · exact ⟨_, part, rfl, member, inBody, isMethod⟩
    · cases inBody
  · rintro ⟨⟨k, s, members⟩, part, isBody, member, inBody, isMethod⟩
    obtain rfl : k = .classBody := isBody
    exact ⟨member, ⟨_, part, inBody⟩, isMethod⟩

end Node

/-! ### The class around an element -/

namespace Visit

/-- The class is around the visited node, and no other class is between them. -/
def InnermostClass (v : Visit) (class_ : Node) : Prop :=
  class_.isClass = true ∧ ∃ between outside, v.ancestors = between ++ class_ :: outside ∧
    ∀ n ∈ between, n.isClass = false

theorem mem_classMethods_iff {v : Visit} {name : String} :
    name ∈ v.classMethods ↔ ∃ class_, v.InnermostClass class_ ∧ class_.DeclaresMethod name := by
  have innermost : ∀ class_, v.ancestors.find? isClass = some class_ ↔ v.InnermostClass class_ := by
    intro class_
    simp [InnermostClass, List.find?_eq_some_iff_append]
  unfold classMethods
  constructor
  · intro declared
    split at declared
    · rename_i class_ found
      exact ⟨class_, (innermost class_).mp found, mem_methodNames_iff.mp declared⟩
    · cases declared
  · rintro ⟨class_, around, declares⟩
    rw [(innermost class_).mpr around]
    exact mem_methodNames_iff.mpr declares

/-- No element is a class, so an element and its tag are in one class. -/
theorem classMethods_opening {v : Visit} {e : Element} {n : Node} (view : v.node.element? = some e) :
    classMethods ⟨n, v.node :: v.ancestors⟩ = v.classMethods := by
  have form := (element?_eq_some view).1
  have isClass : v.node.isClass = false := by
    unfold Node.isClass
    rcases kind_of_form? form with kind | kind <;> rw [kind]
  unfold classMethods
  rw [List.find?_cons_of_neg (by simp [isClass])]

end Visit

namespace Rule

theorem isExpr_of_isMethodReference {r : Resolver} {thisMethods : List String} {tag : Visit} {x : Node}
    (isMethod : MethodRefs.isMethodReference r thisMethods tag x = true) : x.isExpr = true := by
  unfold MethodRefs.isMethodReference at isMethod
  split at isMethod
  · rfl
  · cases isMethod

theorem isMethodReference_this {x : Node} {name : String} (isMember : x.isThisMember name = true)
    (r : Resolver) (thisMethods : List String) (tag : Visit) :
    MethodRefs.isMethodReference r thisMethods tag x = thisMethods.contains name := by
  unfold isThisMember at isMember
  split at isMember
  · rw [beq_iff_eq.mp isMember]
    rfl
  · cases isMember

variable {source : Source} {root : Node}

def valueSpans (v : Visit) : List Span :=
  spansOf (v.onOpening fun o => warnAt .jsxNoMethodRef "" (valuesThat isExpr o))

theorem valueSpans_eq {v : Visit} {o : Opening} (view : v.node.opening? = some o) :
    valueSpans v = (valuesThat isExpr o).map Node.span := by
  simp only [valueSpans, onOpening, view]
  exact spans_warnAt _ _ _

/-- Values of attributes with one span are one value, of one visited tag. -/
theorem eq_of_value_span_eq (formed : root.WellFormed source) {v w : Visit}
    (visited : v ∈ root.visits) (visited' : w ∈ root.visits) {o o' : Opening}
    (view : v.node.opening? = some o) (view' : w.node.opening? = some o') {x y : Node}
    (listed : x ∈ valuesThat isExpr o) (listed' : y ∈ valuesThat isExpr o')
    (same : x.span = y.span) : v = w ∧ x = y := by
  have once : (root.visits.flatMap valueSpans).Nodup := by
    have values := valuesThat_once .jsxNoMethodRef "" (fun _ expression => expression) formed
    rwa [spansOf, List.map_flatMap] at values
  have sameVisit : v = w := by
    refine visit_eq_of_nodup once visited visited' (s := x.span) ?_ ?_
    · rw [valueSpans_eq view]
      exact List.mem_map_of_mem listed
    · rw [valueSpans_eq view', same]
      exact List.mem_map_of_mem listed'
  subst sameVisit
  obtain rfl : o = o' := Option.some.inj (view.symm.trans view')
  have once := (List.nodup_flatMap.mp once).1 v visited
  rw [valueSpans_eq view] at once
  exact ⟨rfl, List.inj_on_of_nodup_map once listed listed' same⟩

end Rule

namespace Config

/-- A method reference is reported when it is said of a tag. -/
theorem mem_places_methodRef_iff {c : Config} (enabled : c.isEnabled .jsxNoMethodRef = true)
    (resolver : Resolver) (doc : Document) (root : Node) (span : Span) :
    (RuleName.jsxNoMethodRef.text, span) ∈
        (c.checkResolved resolver doc root).diagnostics.map Diagnostic.place ↔
      ∃ v ∈ root.visits, ∃ o ∈ v.node.opening?, ∃ x ∈ o.attributes.filterMap fun a =>
          a.expression?.map unwrapParens,
        Rule.MethodRefs.isMethodReference resolver v.classMethods v x = true ∧ x.span = span := by
  rw [checkResolved_eq_firstSaid, mem_places_firstSaid]
  constructor
  · intro placed
    obtain ⟨d, said, place⟩ := List.mem_map.mp placed
    obtain ⟨v, visited, said⟩ := List.mem_flatMap.mp said
    obtain ⟨r, _, said⟩ := List.mem_flatMap.mp said
    obtain ⟨rule, span⟩ := Prod.mk.inj place
    obtain rfl : r = .jsxNoMethodRef :=
      RuleName.text_injective ((r.checkResolved_issues _ _ _ _ d said).rule.symm.trans rule)
    obtain ⟨o, view, said⟩ := mem_onOpening_iff.mp said
    obtain ⟨x, found, rfl⟩ := List.mem_map.mp said
    obtain ⟨listed, isMethod⟩ := List.mem_filter.mp found
    exact ⟨v, visited, o, view, x, listed, isMethod, span⟩
  · rintro ⟨v, visited, o, view, x, listed, isMethod, rfl⟩
    have runs : RuleName.jsxNoMethodRef ∈ RuleName.resolving.filter c.isEnabled :=
      List.mem_filter.mpr ⟨by decide, enabled⟩
    have said : ∃ d ∈ Rule.noMethodRef resolver v.classMethods v o,
        d.place = (RuleName.jsxNoMethodRef.text, x.span) :=
      ⟨_, List.mem_map_of_mem (List.mem_filter.mpr ⟨listed, isMethod⟩), rfl⟩
    obtain ⟨d, told, place⟩ := said
    refine List.mem_map.mpr ⟨d, List.mem_flatMap.mpr ⟨v, visited, ?_⟩, place⟩
    exact List.mem_flatMap.mpr ⟨_, runs, mem_onOpening_iff.mpr ⟨o, view, told⟩⟩

/-- In a program, `this.name` as the value of an attribute, in any number of parentheses, is reported as
a method reference exactly when there is a class around the element and the innermost one declares a
method of the name itself. -/
theorem checkResolved_reports_this_method_iff {source : Source} {root : Node} (c : Config)
    (resolver : Resolver) (doc : Document) (formed : root.WellFormed source)
    (enabled : c.isEnabled .jsxNoMethodRef = true) {v : Visit} (visited : v ∈ root.visits)
    {e : Element} (view : v.node.element? = some e) {a : Attribute} (listed : a ∈ e.opening.attributes)
    {value member : Node} {name : String} (given : a.expression? = some value)
    (wrapped : value.Parenthesizes member) (isMember : member.isThisMember name = true) :
    (∃ d ∈ (c.checkResolved resolver doc root).diagnostics,
        d.rule = RuleName.jsxNoMethodRef.text ∧ d.span = member.span) ↔
      ∃ class_, v.InnermostClass class_ ∧ class_.DeclaresMethod name := by
  obtain ⟨_, _, first, rest, parts, isOpening, _, _⟩ := element?_eq_some view
  have tagVisited : (⟨first, v.node :: v.ancestors⟩ : Visit) ∈ root.visits := by
    refine child_visited visited (List.mem_map.mpr ⟨first, ?_, rfl⟩)
    rw [parts]
    exact List.mem_cons_self
  obtain ⟨expression, bare⟩ := isExpr_of_isThisMember isMember
  have isValue : member ∈ e.opening.attributes.filterMap fun a => a.expression?.map unwrapParens := by
    refine List.mem_filterMap.mpr ⟨a, listed, ?_⟩
    rw [given, Option.map_some, wrapped.unwrapParens_eq bare]
  have places : (∃ d ∈ (c.checkResolved resolver doc root).diagnostics,
      d.rule = RuleName.jsxNoMethodRef.text ∧ d.span = member.span) ↔
        (RuleName.jsxNoMethodRef.text, member.span) ∈
          (c.checkResolved resolver doc root).diagnostics.map Diagnostic.place := by
    simp only [List.mem_map, Diagnostic.place, Prod.mk.injEq]
  rw [places, mem_places_methodRef_iff enabled, ← mem_classMethods_iff,
    ← classMethods_opening (n := first) view]
  constructor
  · rintro ⟨w, visited', o, view', x, listed', isMethod, same⟩
    -- What is reported at the span is this value, seen from this tag.
    have expression' := Rule.isExpr_of_isMethodReference isMethod
    obtain ⟨rfl, rfl⟩ := Rule.eq_of_value_span_eq formed visited' tagVisited view' isOpening
      (List.mem_filter.mpr ⟨listed', expression'⟩) (List.mem_filter.mpr ⟨isValue, expression⟩) same
    rwa [Rule.isMethodReference_this isMember, List.contains_iff_mem] at isMethod
  · intro declared
    refine ⟨_, tagVisited, e.opening, isOpening, member, isValue, ?_, rfl⟩
    rwa [Rule.isMethodReference_this isMember, List.contains_iff_mem]

/-- A class with a method, in which another class without one stands in an attribute. -/
def nestedClassText : String :=
  "class A\x7bm()\x7b\x7dr=<a b=\x7b(this.m)\x7d c=\x7bclass\x7br=<d e=\x7bthis.m\x7d/>\x7d\x7d/>\x7d"

/-- Method references alone are looked for. -/
def methodRefsOnly : Config := empty.enable .jsxNoMethodRef

set_option maxRecDepth 100000 in
set_option synthInstance.maxSize 1000 in
theorem checkResolved_reports_this_method_iff_of_nestedClassText :
    ∃ program, Program.parse ⟨nestedClassText⟩ .tsx = .ok program ∧
      program.root.WellFormed ⟨nestedClassText⟩ ∧
      methodRefsOnly.isEnabled .jsxNoMethodRef = true ∧
      (∃ v ∈ program.root.visits, ∃ e ∈ v.node.element?, e.tagName = "a" ∧
        ∃ class_, v.InnermostClass class_ ∧ class_.DeclaresMethod "m") ∧
      ∃ v ∈ program.root.visits, ∃ e ∈ v.node.element?, e.tagName = "d" ∧
        ¬ ∃ class_, v.InnermostClass class_ ∧ class_.DeclaresMethod "m" := by
  have parsed : ∃ program, Program.parse ⟨nestedClassText⟩ .tsx = .ok program ∧
      let report := (methodRefsOnly.checkResolved (.ofProgram program.root)
        (.ofText nestedClassText .tsx none program.comments) program.root).diagnostics
      program.root.WellFormed ⟨nestedClassText⟩ ∧
      (∃ v ∈ program.root.visits, ∃ e ∈ v.node.element?, e.tagName = "a" ∧
        ∃ a ∈ e.opening.attributes, ∃ value ∈ a.expression?,
          value.unwrapParens.isThisMember "m" = true ∧
            ∃ d ∈ report, d.rule = RuleName.jsxNoMethodRef.text ∧ d.span = value.unwrapParens.span) ∧
      ∃ v ∈ program.root.visits, ∃ e ∈ v.node.element?, e.tagName = "d" ∧
        ∃ a ∈ e.opening.attributes, ∃ value ∈ a.expression?,
          value.unwrapParens.isThisMember "m" = true ∧
            ¬ ∃ d ∈ report, d.rule = RuleName.jsxNoMethodRef.text ∧ d.span = value.unwrapParens.span :=
    Program.exists_parse (by decide +kernel)
  obtain ⟨program, parse, formed,
    ⟨v, visited, e, view, tag, a, listed, value, given, isMember, reported⟩,
    ⟨w, visited', e', view', tag', a', listed', value', given', isMember', unreported⟩⟩ := parsed
  refine ⟨program, parse, formed, rfl, ⟨v, visited, e, view, tag, ?_⟩,
    ⟨w, visited', e', view', tag', ?_⟩⟩
  · exact (checkResolved_reports_this_method_iff methodRefsOnly _ _ formed rfl visited view listed
      given (parenthesizes_unwrapParens value) isMember).mp reported
  · exact fun declared => unreported ((checkResolved_reports_this_method_iff methodRefsOnly _ _ formed
      rfl visited' view' listed' given' (parenthesizes_unwrapParens value') isMember').mpr declared)

end Config

end JsxCheck
