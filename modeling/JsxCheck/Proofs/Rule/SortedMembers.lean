import JsxCheck.Proofs.Text.Collation
import JsxCheck.Rule.Components.PropInterfaces

/-!
Members in order.

The rule keeps the text of the last member in order and compares the next one with it. `IsChain` says what
that makes of the members without it: those that are not reported ascend, and each of the others does not
come after the last of these in front of it. `propSorting_chain` says that every interface has one such
chain, and that the rule reports what is left out of it. It holds in every total preorder of texts.
-/
namespace JsxCheck.Rule

namespace PropInterfaces

/-- A member of an interface and whether it is reported. -/
structure Mark where
  member : Node
  isReported : Bool

def reported (marks : List Mark) : List Node := (marks.filter (·.isReported)).map Mark.member

def kept (marks : List Mark) : List Node := (marks.filter (!·.isReported)).map Mark.member

/-- The texts of the properties among some members. -/
def propertyTexts (doc : Document) (members : List Node) : List String :=
  (members.filter Node.isPropertySignature).map (doc.text ·.span)

/-- One text comes before another. -/
def Precedes (compare : String → String → Ordering) (a b : String) : Prop := compare a b = .lt

/-- The text of the last property that is kept, or another one where none is. -/
def lastText (doc : Document) (previous : String) (marks : List Mark) : String :=
  (propertyTexts doc (kept marks)).getLastD previous

/-- Only properties are reported; those that are kept ascend from a text on, and none that is reported
comes after the last one kept in front of it. -/
structure IsChain (compare : String → String → Ordering) (doc : Document) (previous : String)
    (marks : List Mark) : Prop where
  properties : ∀ member ∈ reported marks, member.isPropertySignature = true
  ascending : (previous :: propertyTexts doc (kept marks)).Pairwise (Precedes compare)
  late : ∀ front member back, marks = front ++ ⟨member, true⟩ :: back →
    (compare (doc.text member.span) (lastText doc previous front)).isLE = true

variable {compare : String → String → Ordering} {doc : Document} {previous : String} {mark : Mark}
  {marks : List Mark} {members : List Node}

/-! ### Texts in order -/

section Order

variable [Std.TransCmp compare]

theorem precedes_iff {a b : String} : Precedes compare a b ↔ compare b a = .gt :=
  Std.OrientedCmp.gt_iff_lt.symm

theorem isLE_compare_iff {a b : String} : (compare b a).isLE = true ↔ ¬ Precedes compare a b := by
  rw [precedes_iff]
  cases compare b a <;> simp

/-- What ascends from a text behind another ascends from that one, too. -/
theorem pairwise_precedes_cons_cons {a b : String} {texts : List String} :
    (a :: b :: texts).Pairwise (Precedes compare) ↔
      Precedes compare a b ∧ (b :: texts).Pairwise (Precedes compare) := by
  rw [List.pairwise_cons]
  refine ⟨fun ⟨first, rest⟩ => ⟨first b List.mem_cons_self, rest⟩, fun ⟨first, rest⟩ => ⟨?_, rest⟩⟩
  intro c later
  rcases List.mem_cons.mp later with rfl | later
  · exact first
  · exact Std.TransCmp.lt_trans first ((List.pairwise_cons.mp rest).1 c later)

/-- The rule is silent when texts ascend from the one that the first is compared with. -/
theorem unsorted_eq_nil_iff : unsorted compare doc previous members = [] ↔
    (previous :: members.map (doc.text ·.span)).Pairwise (Precedes compare) := by
  induction members generalizing previous with
  | nil => exact iff_of_true rfl (List.pairwise_singleton _ _)
  | cons member members ih =>
    rw [unsorted, List.map_cons, pairwise_precedes_cons_cons, precedes_iff]
    cases order : compare (doc.text member.span) previous == .gt with
    | true => rw [if_pos rfl, ih, and_iff_right (beq_iff_eq.mp order)]
    | false =>
      rw [if_neg Bool.false_ne_true]
      exact iff_of_false (List.cons_ne_nil _ _) fun ⟨after, _⟩ => beq_eq_false_iff_ne.mp order after

end Order

/-! ### One member -/

theorem propertyTexts_cons_of_pos {member : Node} (property : member.isPropertySignature = true) :
    propertyTexts doc (member :: members) = doc.text member.span :: propertyTexts doc members := by
  rw [propertyTexts, List.filter_cons_of_pos property]
  rfl

theorem propertyTexts_cons_of_neg {member : Node} (other : member.isPropertySignature = false) :
    propertyTexts doc (member :: members) = propertyTexts doc members := by
  rw [propertyTexts, List.filter_cons_of_neg (by rw [other]; exact Bool.false_ne_true)]
  rfl

/-- The text that the members behind one are compared with. -/
def next (doc : Document) (previous : String) (mark : Mark) : String :=
  if mark.member.isPropertySignature && !mark.isReported then doc.text mark.member.span else previous

/-- A member is reported when it is a property whose text does not come after another one. -/
def isLate (compare : String → String → Ordering) (doc : Document) (previous : String)
    (member : Node) : Bool :=
  member.isPropertySignature && compare (doc.text member.span) previous != .gt

theorem isLate_eq_true_iff {member : Node} : isLate compare doc previous member = true ↔
    member.isPropertySignature = true ∧ (compare (doc.text member.span) previous).isLE = true := by
  rw [isLate, Bool.and_eq_true]
  cases compare (doc.text member.span) previous <;> simp

theorem isLate_eq_false_iff [Std.TransCmp compare] {member : Node} :
    isLate compare doc previous member = false ↔
      (member.isPropertySignature = true → Precedes compare previous (doc.text member.span)) := by
  rw [← Bool.not_eq_true, isLate_eq_true_iff, isLE_compare_iff, not_and_not_right]

theorem lastText_cons :
    lastText doc previous (mark :: marks) = lastText doc (next doc previous mark) marks := by
  obtain ⟨member, isReported⟩ := mark
  cases isReported with
  | true => rw [next, Bool.not_true, Bool.and_false, if_neg Bool.false_ne_true]; rfl
  | false =>
    have shape : kept (⟨member, false⟩ :: marks) = member :: kept marks := rfl
    rw [next, Bool.not_false, Bool.and_true, lastText, shape]
    cases property : member.isPropertySignature with
    | true => rw [propertyTexts_cons_of_pos property, List.getLastD_cons]; rfl
    | false => rw [propertyTexts_cons_of_neg property]; rfl

theorem ascending_cons_iff [Std.TransCmp compare] :
    (previous :: propertyTexts doc (kept (mark :: marks))).Pairwise (Precedes compare) ↔
      (mark.isReported = false → mark.member.isPropertySignature = true →
          Precedes compare previous (doc.text mark.member.span)) ∧
        (next doc previous mark :: propertyTexts doc (kept marks)).Pairwise (Precedes compare) := by
  obtain ⟨member, isReported⟩ := mark
  cases isReported with
  | true =>
    rw [next, Bool.not_true, Bool.and_false, if_neg Bool.false_ne_true]
    exact (and_iff_right nofun).symm
  | false =>
    have shape : kept (⟨member, false⟩ :: marks) = member :: kept marks := rfl
    rw [next, Bool.not_false, Bool.and_true, shape]
    cases property : member.isPropertySignature with
    | true =>
      rw [propertyTexts_cons_of_pos property, pairwise_precedes_cons_cons, if_pos rfl]
      exact and_congr_left fun _ => ⟨fun first _ _ => first, fun first => first rfl rfl⟩
    | false =>
      rw [propertyTexts_cons_of_neg property, if_neg Bool.false_ne_true]
      exact (and_iff_right nofun).symm

theorem late_cons_iff :
    (∀ front member back, mark :: marks = front ++ ⟨member, true⟩ :: back →
        (compare (doc.text member.span) (lastText doc previous front)).isLE = true) ↔
      (mark.isReported = true → (compare (doc.text mark.member.span) previous).isLE = true) ∧
        ∀ front member back, marks = front ++ ⟨member, true⟩ :: back →
          (compare (doc.text member.span) (lastText doc (next doc previous mark) front)).isLE =
            true := by
  constructor
  · intro late
    refine ⟨fun isReported => ?_, fun front member back shape => ?_⟩
    · obtain ⟨member, _⟩ := mark
      cases isReported
      exact late [] member marks rfl
    · rw [← lastText_cons]
      exact late (mark :: front) member back (by rw [shape, List.cons_append])
  · rintro ⟨here, late⟩ front member back shape
    cases front with
    | nil =>
      obtain ⟨rfl, _⟩ := List.cons.inj shape
      exact here rfl
    | cons first front =>
      obtain ⟨rfl, rest⟩ := List.cons.inj shape
      rw [lastText_cons]
      exact late front member back rest

theorem isReported_eq_isLate_iff [Std.TransCmp compare] :
    mark.isReported = isLate compare doc previous mark.member ↔
      (mark.isReported = true → mark.member.isPropertySignature = true) ∧
        (mark.isReported = false → mark.member.isPropertySignature = true →
          Precedes compare previous (doc.text mark.member.span)) ∧
        (mark.isReported = true → (compare (doc.text mark.member.span) previous).isLE = true) := by
  cases mark.isReported with
  | true => simp [eq_comm (a := true), isLate_eq_true_iff]
  | false => simp [eq_comm (a := false), isLate_eq_false_iff]

/-- A chain goes on behind a member as it would from the text that this member leaves behind. -/
theorem isChain_cons_iff [Std.TransCmp compare] : IsChain compare doc previous (mark :: marks) ↔
    mark.isReported = isLate compare doc previous mark.member ∧
      IsChain compare doc (next doc previous mark) marks := by
  have properties : (∀ member ∈ reported (mark :: marks), member.isPropertySignature = true) ↔
      (mark.isReported = true → mark.member.isPropertySignature = true) ∧
        ∀ member ∈ reported marks, member.isPropertySignature = true := by
    obtain ⟨member, isReported⟩ := mark
    cases isReported <;> simp [reported]
  rw [isReported_eq_isLate_iff]
  constructor
  · rintro ⟨first, second, third⟩
    obtain ⟨property, first⟩ := properties.mp first
    obtain ⟨ascends, second⟩ := ascending_cons_iff.mp second
    obtain ⟨late, third⟩ := late_cons_iff.mp third
    exact ⟨⟨property, ascends, late⟩, first, second, third⟩
  · rintro ⟨⟨property, ascends, late⟩, first, second, third⟩
    exact ⟨properties.mpr ⟨property, first⟩, ascending_cons_iff.mpr ⟨ascends, second⟩,
      late_cons_iff.mpr ⟨late, third⟩⟩

theorem isChain_nil : IsChain compare doc previous [] :=
  ⟨nofun, List.pairwise_singleton _ _, fun front _ _ shape => by cases front <;> cases shape⟩

/-! ### All members -/

/-- What the rule makes of each member, from a text on. -/
def marksFrom (compare : String → String → Ordering) (doc : Document) :
    (previous : String) → List Node → List Mark
  | _, [] => []
  | previous, member :: members =>
    let mark : Mark := ⟨member, isLate compare doc previous member⟩
    mark :: marksFrom compare doc (next doc previous mark) members

/-- Members have one chain. -/
theorem isChain_iff [Std.TransCmp compare] :
    marks.map Mark.member = members ∧ IsChain compare doc previous marks ↔
      marks = marksFrom compare doc previous members := by
  induction members generalizing previous marks with
  | nil =>
    rw [List.map_eq_nil_iff, marksFrom]
    refine and_iff_left_of_imp ?_
    rintro rfl
    exact isChain_nil
  | cons member members ih =>
    cases marks with
    | nil => simp [marksFrom]
    | cons mark marks =>
      rw [List.map_cons, List.cons.injEq, isChain_cons_iff, marksFrom, List.cons.injEq]
      constructor
      · rintro ⟨⟨rfl, rest⟩, judged, chain⟩
        have same : mark = ⟨mark.member, isLate compare doc previous mark.member⟩ := by rw [← judged]
        exact ⟨same, by rw [← same]; exact ih.mp ⟨rest, chain⟩⟩
      · rintro ⟨rfl, rest⟩
        obtain ⟨members, chain⟩ := ih.mpr rest
        exact ⟨⟨rfl, members⟩, rfl, chain⟩

theorem reported_marksFrom : reported (marksFrom compare doc previous members) =
    unsorted compare doc previous (members.filter Node.isPropertySignature) := by
  induction members generalizing previous with
  | nil => rfl
  | cons member members ih =>
    rw [marksFrom]
    cases property : member.isPropertySignature with
    | false =>
      have passed : isLate compare doc previous member = false := by rw [isLate, property, Bool.false_and]
      have same : next doc previous ⟨member, false⟩ = previous := by rw [next, property]; rfl
      rw [List.filter_cons_of_neg (by simp [property]), passed, same, ← ih]
      rfl
    | true =>
      rw [List.filter_cons_of_pos property, unsorted]
      cases order : compare (doc.text member.span) previous == .gt with
      | true =>
        have kept : isLate compare doc previous member = false := by
          rw [isLate, property, bne, order]
          rfl
        have text : next doc previous ⟨member, false⟩ = doc.text member.span := by
          rw [next, property]
          rfl
        rw [kept, text, if_pos rfl, ← ih]
        rfl
      | false =>
        have late : isLate compare doc previous member = true := by
          rw [isLate, property, bne, order]
          rfl
        have same : next doc previous ⟨member, true⟩ = previous := by
          rw [next, property]
          rfl
        rw [late, same, if_neg Bool.false_ne_true, ← ih]
        rfl

end PropInterfaces

open PropInterfaces

variable {compare : String → String → Ordering}

theorem propSorting_of_interface {doc : Document} {n : Node} {name : String} {members : List Node}
    (interface : n.interface? = some (name, members)) :
    propSorting compare doc n = (reported (marksFrom compare doc "" members)).map fun member =>
      RuleName.jsxPropSorting.warning member.span "Prop names are not alphabetized" := by
  rw [propSorting, interface, reported_marksFrom]

theorem propSorting_eq_nil_iff [Std.TransCmp compare] {doc : Document} {n : Node} {name : String}
    {members : List Node} (interface : n.interface? = some (name, members)) :
    propSorting compare doc n = [] ↔
      ("" :: propertyTexts doc members).Pairwise (Precedes compare) := by
  rw [propSorting_of_interface interface, List.map_eq_nil_iff, reported_marksFrom,
    unsorted_eq_nil_iff, propertyTexts]

/-- In an order of texts that is a total preorder, the properties of an interface fall into one chain,
which ascends from the empty text, and those that are reported, none of which comes after the last one of
the chain in front of it. Nothing is reported exactly when all properties ascend and the first comes after
the empty text, and nothing is reported of an interface with the members that are left. -/
theorem propSorting_chain (compare : String → String → Ordering) [Std.TransCmp compare]
    (doc : Document) {n : Node} {name : String} {members : List Node}
    (interface : n.interface? = some (name, members)) :
    (∃ marks : List Mark,
      (∀ others,
        others.map Mark.member = members ∧ IsChain compare doc "" others ↔ others = marks) ∧
      propSorting compare doc n = ((reported marks).map fun member =>
        RuleName.jsxPropSorting.warning member.span "Prop names are not alphabetized") ∧
      ∀ (rest : Node) (title : String), rest.interface? = some (title, kept marks) →
        propSorting compare doc rest = []) ∧
    (propSorting compare doc n = [] ↔ (propertyTexts doc members).Pairwise (Precedes compare) ∧
      ∀ first ∈ (propertyTexts doc members).head?, Precedes compare "" first) := by
  refine ⟨⟨marksFrom compare doc "" members, fun others => isChain_iff,
    propSorting_of_interface interface, fun rest title left => ?_⟩, ?_⟩
  · have chain : IsChain compare doc "" (marksFrom compare doc "" members) :=
      (isChain_iff.mpr rfl).2
    exact (propSorting_eq_nil_iff left).mpr chain.ascending
  · rw [propSorting_eq_nil_iff interface]
    cases propertyTexts doc members with
    | nil => simp
    | cons text texts =>
      rw [pairwise_precedes_cons_cons, and_comm]
      simp

/-- The members of `interface P { a: 0; f(): 0; a: 0; }`. -/
def repeatedMembers : List Node := [
  .mk .propertySignature ⟨14, 19⟩ [],
  .mk .methodSignature ⟨20, 27⟩ [],
  .mk .propertySignature ⟨28, 33⟩ []]

/-- With a collator and without one, the later of two equal members is reported. -/
theorem propSorting_chain_of_repeatedMembers :
    let doc := Document.ofText "interface P \x7b a: 0; f(): 0; a: 0; \x7d" .tsx none []
    let declaration (members : List Node) : Node := .mk .interfaceDeclaration ⟨0, 35⟩
      [.mk (.binding "P") ⟨10, 11⟩ [], .mk .interfaceBody ⟨12, 35⟩ members]
    (declaration repeatedMembers).interface? = some ("P", repeatedMembers) ∧
      ∀ collator? ∈ [some Collation.compare, none],
        Std.TransCmp (Collation.order collator?) ∧
        propSorting (Collation.order collator?) doc (declaration repeatedMembers) ≠ [] ∧
        ∃ marks, marks.map Mark.member = repeatedMembers ∧
          IsChain (Collation.order collator?) doc "" marks ∧
          propSorting (Collation.order collator?) doc (declaration (kept marks)) = [] := by
  intro doc declaration
  have interface : (declaration repeatedMembers).interface? = some ("P", repeatedMembers) := rfl
  refine ⟨interface, fun collator? listed => ?_⟩
  have lawful : Std.TransCmp (Collation.order collator?) := by
    refine Collation.order_transCmp fun collator given => ?_
    rcases List.mem_pair.mp listed with rfl | rfl
    · obtain rfl := Option.some.inj given
      exact Collation.compare_transCmp
    · cases given
  obtain ⟨⟨marks, unique, _, silent⟩, sorted⟩ :=
    propSorting_chain (Collation.order collator?) doc interface
  obtain ⟨members, chain⟩ := (unique marks).mpr rfl
  refine ⟨lawful, fun none => ?_, marks, members, chain, silent _ "P" rfl⟩
  have texts : propertyTexts doc repeatedMembers = ["a: 0;", "a: 0;"] := by decide +kernel
  obtain ⟨ascend, _⟩ := sorted.mp none
  rw [texts, List.pairwise_pair] at ascend
  have equal : Collation.order collator? "a: 0;" "a: 0;" = .eq := Std.ReflCmp.compare_self
  cases equal.symm.trans ascend

end JsxCheck.Rule
