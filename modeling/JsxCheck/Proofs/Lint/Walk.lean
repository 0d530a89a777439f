import JsxCheck.Lint.Walk
import JsxCheck.Proofs.Syntax.Tree

/-!
What the walk over a program does.

`visit_eq` says that a visited tree leaves the walk as it was, apart from what was found and from an
announcement, which is taken back. `findings_eq` says that every node is looked at once, in pre-order,
and at the position that the node around it gives.
-/
namespace JsxCheck

/-- Where a visited node stands, by the node around it. -/
def Visit.position (v : Visit) : Position :=
  match v.parent? with
  | some parent =>
    match parent.form? with
    | some .jsxElement => if v.node.isJsxElement then .child else .other
    | some .parenthesized => .parenthesized parent.span
    | _ => .other
  | none => .other

namespace Visit

/-- The node around a visited node is a pair of parentheses, which cover the span. -/
def InParens (v : Visit) (span : Span) : Prop :=
  ∃ parent ∈ v.parent?, parent.form? = some .parenthesized ∧ parent.span = span

theorem position_eq_parenthesized_iff {v : Visit} {span : Span} :
    v.position = .parenthesized span ↔ v.InParens span := by
  unfold position InParens
  cases v.parent? with
  | none => simp
  | some parent =>
    dsimp only
    split
    · rename_i form
      split <;> simp [form]
    · rename_i form
      simp [form]
    · rename_i _ notParens
      simp [show parent.form? ≠ some .parenthesized from notParens]

end Visit

namespace Walk

variable {α : Type} {look : Visit → Position → List α}

/-- An announcement is made for elements only. -/
def Ready (w : Walk α) (n : Node) : Prop := w.atChild = true → n.isJsxElement = true

theorem ready_of_quiet {w : Walk α} (n : Node) (quiet : w.atChild = false) : w.Ready n := by
  intro announced
  rw [quiet] at announced
  cases announced

theorem ready_announce (n : Node) (w : Walk α) : (announce n w).Ready n := by
  intro announced
  simp only [announce, Bool.and_eq_true] at announced
  exact announced.2

/-- What is found below some ancestors in trees that stand side by side. -/
def foundBelow (look : Visit → Position → List α) (ancestors : List Node) (ns : List Node) :
    List α :=
  ns.flatMap fun n => (n.visitsBelow ancestors).flatMap fun v => look v v.position

theorem append_append_list (xs : Array α) (l₁ l₂ : List α) : xs ++ l₁ ++ l₂ = xs ++ (l₁ ++ l₂) := by
  apply Array.ext'
  simp

theorem foundBelow_cons (ancestors : List Node) (n : Node) (ns : List Node)
    {position : Position} (here : position = Visit.position ⟨n, ancestors⟩) :
    foundBelow look ancestors (n :: ns) =
      look ⟨n, ancestors⟩ position ++ foundBelow look (n :: ancestors) n.children
        ++ foundBelow look ancestors ns := by
  rw [foundBelow, List.flatMap_cons, Node.visitsBelow_eq, List.flatMap_cons, List.flatMap_assoc,
    here, foundBelow, foundBelow]

/-- A tag is no element, so nothing is announced in front of it. -/
theorem isJsxElement_of_isTag {n : Node} (tag : n.isTag = true) : n.isJsxElement = false := by
  unfold Node.isTag at tag
  unfold Node.isJsxElement Node.form?
  split at tag
  all_goals simp_all

/-- A child of an element or a fragment is announced exactly when the node around it says so. -/
theorem position_announce {n parent : Node} {rest : List Node} {w : Walk α}
    (around : w.ancestors = parent :: rest) (holder : holder? parent = some w.inElement) :
    (announce n w).position = Visit.position ⟨n, parent :: rest⟩ := by
  unfold position announce Visit.position Visit.parent?
  simp only [around, List.head?_cons]
  unfold holder? at holder
  split at holder
  · rename_i form
    rw [← Option.some.inj holder]
    cases n.isJsxElement <;> simp [form]
  · rename_i form
    rw [← Option.some.inj holder]
    simp [form]
  · cases holder

/-- Without an announcement the position is the one that the node around gives, unless an element
stands among the children of an element. -/
theorem position_unannounced {n parent : Node} {rest : List Node} {w : Walk α}
    (around : w.ancestors = parent :: rest) (quiet : w.atChild = false)
    (apart : (holder? parent).isSome = true → n.isTag = true) :
    w.position = Visit.position ⟨n, parent :: rest⟩ := by
  unfold position Visit.position Visit.parent?
  simp only [around, quiet, List.head?_cons, Bool.false_eq_true, if_false]
  split
  · rename_i form
    rw [form]
  · rename_i notParenthesized
    split
    · rename_i form
      have tag := apart (by simp [holder?, form])
      rw [isJsxElement_of_isTag tag]
      rfl
    · rename_i form
      exact absurd form notParenthesized
    · rfl

theorem visitAll_eq {parent : Node} {rest : List Node} (ns : List Node)
    (each : ∀ n ∈ ns, ∀ w : Walk α, w.Ready n → visit look n w =
      { w with
        atChild := false
        found := w.found ++ (look ⟨n, w.ancestors⟩ w.position
          ++ foundBelow look (n :: w.ancestors) n.children) })
    (w : Walk α) (around : w.ancestors = parent :: rest) (quiet : w.atChild = false)
    (holder : ∀ b, holder? parent = some b → w.inElement = b) :
    visitAll look (holder? parent).isSome ns w =
      { w with found := w.found ++ foundBelow look (parent :: rest) ns } := by
  induction ns generalizing w with
  | nil => simp [visitAll, foundBelow]
  | cons n ns ih =>
    have tail := ih (fun m member => each m (List.mem_cons_of_mem _ member))
    have head := each n List.mem_cons_self
    rw [visitAll]
    split
    · rename_i isChild
      simp only [Bool.and_eq_true] at isChild
      obtain ⟨b, holds⟩ := Option.isSome_iff_exists.mp isChild.1
      have inElement := holder b holds
      rw [head _ (ready_announce n w)]
      dsimp only
      rw [tail _ (by exact around) (by rfl) (by exact holder),
        foundBelow_cons _ _ _ (position_announce around (by rw [holds, inElement]))]
      simp only [announce, around, append_append_list, List.append_assoc, quiet]
    · rename_i notChild
      have apart : (holder? parent).isSome = true → n.isTag = true := by
        intro holds
        simpa [holds] using notChild
      rw [head _ (ready_of_quiet n quiet), tail _ (by exact around) (by rfl) (by exact holder),
        foundBelow_cons _ _ _ (position_unannounced around quiet apart)]
      simp only [around, append_append_list, List.append_assoc, quiet]

/-- A visited tree leaves the ancestors and the kind of children walked over as they were and takes
an announcement back; what is found is what a look at each of its nodes finds, in pre-order. -/
theorem visit_eq (n : Node) : ∀ w : Walk α, w.Ready n → visit look n w =
    { w with
      atChild := false
      found := w.found ++ (look ⟨n, w.ancestors⟩ w.position
        ++ foundBelow look (n :: w.ancestors) n.children) } := by
  induction n using Node.childrenInduction with
  | step n ih =>
    intro w ready
    cases n with
    | mk k s cs =>
      generalize whole : Node.mk k s cs = n at ready ih ⊢
      have parts : n.children = cs := by rw [← whole, Node.children]
      have quiet : (enter look n w).atChild = false := by
        unfold enter
        cases announced : w.atChild with
        | false => rfl
        | true => simp [ready announced]
      have holder : ∀ b, holder? n = some b → (enter look n w).inElement = b := by
        intro b holds
        simp [enter, holds]
      rw [← whole, visit, whole, visitAll_eq cs (parts ▸ ih) _ rfl quiet holder, parts]
      unfold leave
      rw [quiet]
      simp only [enter, List.tail_cons, append_append_list]
      cases holder? n <;> simp

/-- Every node is looked at once, in pre-order and at its position. -/
theorem findings_eq (root : Node) :
    findings look root = root.visits.flatMap fun v => look v v.position := by
  have here : Walk.position (α := α) {} = Visit.position ⟨root, []⟩ := rfl
  rw [findings, visit_eq root _ (ready_of_quiet root rfl), Node.visits, Node.visitsBelow_eq, List.flatMap_cons,
    List.flatMap_assoc, here, foundBelow]
  simp

end Walk

end JsxCheck
