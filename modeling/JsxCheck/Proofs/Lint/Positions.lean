import JsxCheck.Lint.Basic
import JsxCheck.Proofs.Lint.Isolation
import JsxCheck.Proofs.Source.Lines
import JsxCheck.Proofs.Syntax.Views

/-!
Where elements stand.

The walk tells every element its position from flags that it sets and takes back on the way.
`walk_positions` says that the positions are those that the tree shows, that no visit leaves a trace
in the flags, and what follows for elements on several lines: `jsx-wrap-multiline` is silent exactly
when each of them stands in parentheses on lines of their own or is a child of another element.
-/
namespace JsxCheck

namespace Visit

/-- The node around a visited node is an element. -/
def InElement (v : Visit) : Prop := ∃ parent ∈ v.parent?, parent.form? = some .jsxElement

/-- The node around a visited node is a pair of parentheses on lines of their own. -/
def WrappedApart (source : Source) (v : Visit) : Prop :=
  ∃ paren, v.InParens paren ∧
    source.lineFeeds paren.start < source.lineFeeds v.node.span.start ∧
    source.lineFeeds v.node.span.stop < source.lineFeeds (paren.stop - 1)

theorem position_eq_child_iff {v : Visit} (element : v.node.isJsxElement = true) :
    v.position = .child ↔ v.InElement := by
  unfold position InElement
  cases v.parent? with
  | none => simp
  | some parent =>
    dsimp only
    split
    · rename_i form
      simp [element, form]
    · rename_i form
      simp [form]
    · rename_i notElement _
      simpa using notElement

theorem position_eq_other_iff {v : Visit} (element : v.node.isJsxElement = true) :
    v.position = .other ↔ ¬ v.InElement ∧ ∀ span, ¬ v.InParens span := by
  rw [← position_eq_child_iff element]
  simp only [← position_eq_parenthesized_iff]
  cases v.position <;> simp

end Visit

/-! ### Elements on several lines -/

namespace Rule

variable (text : String) (dialect : Dialect) (path : Option String) (comments : List Span)

/-- What `jsx-wrap-multiline` accepts, by the lines that an element and its parentheses are on. -/
theorem wrapMultiline_eq_nil_iff {e : Element} (position : Position)
    (order : e.span.start ≤ e.span.stop) :
    wrapMultiline (.ofText text dialect path comments) e position = [] ↔
      ((Source.mk text).CrossesLine e.span → position ≠ .child → ∃ paren,
        position = .parenthesized paren ∧
        (Source.mk text).lineFeeds paren.start ≠ (Source.mk text).lineFeeds e.span.start ∧
        (Source.mk text).lineFeeds (paren.stop - 1) ≠ (Source.mk text).lineFeeds e.span.stop) := by
  rw [← Document.isMultiline_ofText text dialect path comments order]
  unfold wrapMultiline
  simp only [Document.line_ofText]
  cases (Document.ofText text dialect path comments).isMultiline e.span with
  | false => simp
  | true => cases position <;> simp

end Rule

/-- Among the nodes of a program, what `jsx-wrap-multiline` accepts is every element that is on one
line, or a child of an element, or wrapped by parentheses on lines of their own. -/
theorem Visit.wrapMultiline_eq_nil_iff {text : String} {dialect : Dialect} {path : Option String}
    {comments : List Span} {root : Node} {v : Visit} (formed : root.WellFormed ⟨text⟩)
    (member : v ∈ root.visits) :
    v.onElement (fun e =>
        Rule.wrapMultiline (.ofText text dialect path comments) e v.position) = [] ↔
      (v.node.isJsxElement = true → (Source.mk text).CrossesLine v.node.span → ¬ v.InElement →
        v.WrappedApart ⟨text⟩) := by
  have here := formed.formed (node_mem_preorder member)
  unfold onElement
  cases found : v.node.element? with
  | none =>
    refine iff_of_true rfl ?_
    intro element
    obtain ⟨e, isElement⟩ := here.exists_element? (Node.isJsxElement_iff.mp element)
    rw [isElement] at found
    cases found
  | some e =>
    obtain ⟨form, span, _⟩ := Node.element?_eq_some found
    have element := Node.isJsxElement_iff.mpr form
    dsimp only
    rw [Rule.wrapMultiline_eq_nil_iff _ _ _ _ _ (span ▸ here.ordered), span, ne_eq,
      position_eq_child_iff element, imp_iff_right element]
    simp only [position_eq_parenthesized_iff]
    refine imp_congr_right fun _ => imp_congr_right fun _ => exists_congr fun paren =>
      and_congr_right fun wrapped => ?_
    -- Lines never decrease, so parentheses on other lines are on lines above and below.
    obtain ⟨parent, above, form, rfl⟩ := wrapped
    obtain ⟨_, _, visited⟩ := parent?_visited member above
    have around : parent.Formed ⟨text⟩ := formed.formed (node_mem_preorder visited)
    obtain ⟨before, after⟩ := around.inside_parens form (mem_children_of_parent? member above)
    have up := (Source.mk text).lineFeeds_mono (Nat.le_of_lt before)
    have down := (Source.mk text).lineFeeds_mono (Nat.le_sub_one_of_lt after)
    omega

namespace Walk

/-- Every node is visited once, and an element learns its position from the node around it: it is a
child exactly below an element and parenthesized exactly below parentheses. A visited tree leaves the
flags of the walk as they were, and an announcement does not outlive the tree it was made for. So
`jsx-wrap-multiline` is silent exactly when each element with a line break under it, other than the
children of elements, is wrapped by parentheses on lines of their own. -/
theorem walk_positions (root : Node) :
    (∀ (α : Type) (look : Visit → Position → List α) (n : Node) (w : Walk α),
      w.atChild = false ∨ (∃ before, w = announce n before) →
        (visit look n w).ancestors = w.ancestors ∧ (visit look n w).inElement = w.inElement ∧
          (visit look n w).atChild = false) ∧
    (findings (fun v position => [(v, position)]) root).map Prod.fst = root.visits ∧
    (∀ v position, (v, position) ∈ findings (fun v position => [(v, position)]) root →
      v.node.isJsxElement = true →
        (position = .child ↔ v.InElement) ∧
        (∀ span, position = .parenthesized span ↔ v.InParens span) ∧
        (position = .other ↔ ¬ v.InElement ∧ ∀ span, ¬ v.InParens span)) ∧
    ∀ (text : String) (dialect : Dialect) (path : Option String) (comments : List Span) (c : Config),
      root.WellFormed ⟨text⟩ → c.isEnabled .jsxWrapMultiline = true →
        ((∀ d ∈ (c.check (.ofText text dialect path comments) root).diagnostics,
            d.rule ≠ RuleName.jsxWrapMultiline.text) ↔
          ∀ v ∈ root.visits, v.node.isJsxElement = true →
            (Source.mk text).CrossesLine v.node.span → ¬ v.InElement →
              v.WrappedApart ⟨text⟩) := by
  refine ⟨?frame, ?order, ?positions, ?wrapping⟩
  case frame =>
    intro α look n w entered
    have ready : w.Ready n := by
      rcases entered with quiet | ⟨before, rfl⟩
      · exact ready_of_quiet n quiet
      · exact ready_announce n before
    rw [visit_eq n w ready]
    exact ⟨rfl, rfl, rfl⟩
  case order =>
    rw [findings_eq, List.map_flatMap]
    simp
  case positions =>
    intro v position handed element
    rw [findings_eq, List.mem_flatMap] at handed
    obtain ⟨w, _, same⟩ := handed
    obtain ⟨rfl, rfl⟩ := Prod.mk.inj (List.mem_singleton.mp same)
    exact ⟨Visit.position_eq_child_iff element, fun span => Visit.position_eq_parenthesized_iff,
      Visit.position_eq_other_iff element⟩
  case wrapping =>
    intro text dialect path comments c formed enabled
    obtain ⟨options, setting⟩ := Option.isSome_iff_exists.mp enabled
    rw [Config.silent_iff]
    refine forall₂_congr fun v member => ?_
    rw [Config.say, setting]
    exact Visit.wrapMultiline_eq_nil_iff formed member

set_option maxRecDepth 100000 in
theorem walk_positions_of_wrapped_tag :
    ∃ program, Program.parse ⟨"(\n<A\n/>\n)"⟩ .tsx = .ok program ∧
      program.root.WellFormed ⟨"(\n<A\n/>\n)"⟩ ∧
      (visit (fun v _ => [v]) program.root {}).atChild = false ∧
      (∃ v : Visit, v.node.isJsxElement = true ∧ v.InParens ⟨0, 9⟩) ∧
      ∀ v ∈ program.root.visits, v.node.isJsxElement = true →
        (Source.mk "(\n<A\n/>\n)").CrossesLine v.node.span → ¬ v.InElement →
          v.WrappedApart ⟨"(\n<A\n/>\n)"⟩ := by
  have parsed : ∃ program, Program.parse ⟨"(\n<A\n/>\n)"⟩ .tsx = .ok program ∧
      program.root.WellFormed ⟨"(\n<A\n/>\n)"⟩ ∧
      (∃ handed ∈ findings (fun v position => [(v, position)]) program.root,
        handed.1.node.isJsxElement = true ∧ handed.2 = .parenthesized ⟨0, 9⟩) ∧
      ∀ d ∈ (Config.recommended.check (.ofText "(\n<A\n/>\n)" .tsx none []) program.root).diagnostics,
        d.rule ≠ RuleName.jsxWrapMultiline.text :=
    Program.exists_parse (by decide +kernel)
  obtain ⟨program, parse, formed, ⟨⟨v, position⟩, handed, element, wrapped⟩, silent⟩ := parsed
  obtain ⟨frame, _, positions, wrapping⟩ := walk_positions program.root
  exact ⟨program, parse, formed, (frame _ _ _ {} (Or.inl rfl)).2.2,
    ⟨v, element, ((positions v position handed element).2.1 _).mp wrapped⟩,
    (wrapping _ .tsx none [] .recommended formed (by decide)).mp silent⟩

end Walk

end JsxCheck
