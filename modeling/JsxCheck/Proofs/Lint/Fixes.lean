import JsxCheck.Proofs.Fix.Order
import JsxCheck.Proofs.Lint.Passes
import JsxCheck.Proofs.Rule.Runs
import JsxCheck.Proofs.Syntax.Views

/-!
The fixes of the recommended rules.

Four of the rules make fixes, each in another place: braces around a text given to an attribute, the
tags of an element without content, the end of a tag that closes itself, and runs in a text.
`recommended_fixes_clear` says that no two of the fixes on a text that parses collide, so that all of
them can be made together.
-/
namespace JsxCheck

namespace Fix

/-- The span of a fix lies in another span and does not start at its end. -/
def Inside (f : Fix) (span : Span) : Prop := f.span.Within span ∧ f.span.start < span.stop

theorem Inside.mono {f : Fix} {inner outer : Span} (inside : f.Inside inner)
    (within : inner.Within outer) : f.Inside outer :=
  ⟨inside.1.trans within, Nat.lt_of_lt_of_le inside.2 within.2⟩

theorem Inside.before {f g : Fix} {left right : Span} (first : f.Inside left)
    (second : g.Inside right) (before : left.stop ≤ right.start) : f.Before g := by
  obtain ⟨⟨_, stop⟩, start⟩ := first
  obtain ⟨⟨start', _⟩, _⟩ := second
  exact ⟨by omega, by omega⟩

theorem Inside.clear {f g : Fix} {left right : Span} (first : f.Inside left)
    (second : g.Inside right) (apart : left.Apart right) : f.Clear g :=
  apart.imp (first.before second) (second.before first)

end Fix

/-! ### What is replaced -/

namespace Node

/-- Some recommended rule that makes fixes looks at the node. -/
def MayBeFixed (n : Node) : Prop :=
  n.kind = .jsxOpening ∨ n.kind = .jsxText ∨ n.form? = some .jsxElement

/-- The fix replaces the braces around a text that is given to an attribute of a tag. -/
def BracesReplaced (n : Node) (f : Fix) : Prop :=
  n.kind = .jsxOpening ∧ ∃ a ∈ n.children, ∃ container ∈ a.children,
    a.kind = .jsxAttribute ∧ container.kind = .jsxContainer ∧ f.span = container.span ∧
      ∀ m ∈ container.preorder, ¬ m.MayBeFixed

/-- The fix replaces the end of the opening tag of an element up to the end of its closing tag, and
between the tags there is white space only. -/
def TagsReplaced (source : Source) (n : Node) (f : Fix) : Prop :=
  n.form? = some .jsxElement ∧ ∃ opening rest, n.children = opening :: rest ∧
    (∃ closing ∈ rest, closing.kind = .jsxClosing ∧
      f.span = ⟨opening.span.stop - 1, closing.span.stop⟩) ∧
    ∀ c ∈ rest, c.kind = .jsxClosing ∨ c.isBlankText source = true

/-- The fix inserts text in front of the end of a tag that closes itself. -/
def SlashMoved (n : Node) (f : Fix) : Prop :=
  n.form? = some .jsxElement ∧ ∃ opening rest, n.children = opening :: rest ∧
    (rest.find? isClosing).isNone = true ∧ f.span = .point (n.span.stop - 2)

/-- The fix replaces a part of a text. -/
def RunReplaced (source : Source) (n : Node) (f : Fix) : Prop :=
  n.kind = .jsxText ∧ n.isBlankText source = false ∧ f.Inside n.span ∧ f.span.start ≤ f.span.stop

variable {source : Source} {n : Node} {f : Fix}

/-- Text in braces holds no tags. -/
theorem not_mayBeFixed_of_unbraced? {doc : Document} {container e : Node} {text : String}
    (formed : container.WellFormed source) (kind : container.kind = .jsxContainer)
    (parts : container.children = [e]) (unbraced : Rule.unbraced? doc e = some text) :
    ∀ m ∈ container.preorder, ¬ m.MayBeFixed := by
  intro m inside fixed
  have below := mem_preorder.mp inside
  rw [descendants, parts, List.flatMap_singleton] at below
  have formedContent : e.WellFormed source := formed.child (by rw [parts]; exact List.mem_cons_self)
  rcases below with rfl | inContent
  · simp [MayBeFixed, form?, kind] at fixed
  · unfold Rule.unbraced? at unbraced
    split at unbraced
    · have leaf := formedContent.root.atomic rfl
      rw [eq_of_mem_preorder_of_isEmpty leaf inContent] at fixed
      simp [MayBeFixed, form?, Node.kind] at fixed
    · rename_i cooked _ chunkParts
      rcases mem_preorder.mp inContent with rfl | deeper
      · simp [MayBeFixed, form?, Node.kind] at fixed
      · obtain ⟨chunk, child, inChunk⟩ := mem_descendants.mp deeper
        obtain rfl := List.mem_singleton.mp child
        have leaf := (formedContent.child List.mem_cons_self).root.atomic rfl
        rw [eq_of_mem_preorder_of_isEmpty leaf inChunk] at fixed
        simp [MayBeFixed, form?, Node.kind] at fixed
    · cases unbraced

end Node

/-! ### What the rules replace -/

namespace Rule

variable {doc : Document} {f : Fix}

abbrev fixesOf (said : List Diagnostic) : List Fix := said.flatMap Diagnostic.fixes

theorem mem_fixesOf_bracePresenceOf {a : Attribute}
    (member : f ∈ fixesOf (bracePresenceOf .never doc a)) :
    ∃ container e text, a.container? = some container ∧ a.expression? = some e ∧
      unbraced? doc e = some text ∧ f.span = container.span := by
  unfold bracePresenceOf at member
  dsimp only at member
  split at member
  · rename_i container text braces content
    obtain ⟨e, given, unbraced⟩ := Option.bind_eq_some_iff.mp content
    obtain rfl : f = ⟨container.span, text, none⟩ := by
      simpa [fixesOf, Diagnostic.addFix, RuleName.warning] using member
    exact ⟨container, e, text, braces, given, unbraced, rfl⟩
  · cases member

theorem bracePresenceOf_fixes_pairwise (relation : Fix → Fix → Prop) (a : Attribute) :
    (fixesOf (bracePresenceOf .never doc a)).Pairwise relation := by
  unfold bracePresenceOf
  dsimp only
  split
  · simp [fixesOf, Diagnostic.addFix, RuleName.warning]
  · exact List.Pairwise.nil

theorem mem_fixesOf_selfClose {e : Element} (member : f ∈ fixesOf (selfClose doc e)) :
    ∃ closing, e.closing = some closing ∧ hasNoContent doc.source e.children = true ∧
      f.span = ⟨e.opening.span.stop - 1, closing.span.stop⟩ := by
  unfold selfClose at member
  split at member
  · cases member
  · rename_i closing closed
    split at member
    · rename_i blank
      obtain rfl : f = ⟨⟨e.opening.span.stop - 1, closing.span.stop⟩, " />", none⟩ := by
        simpa [fixesOf, Diagnostic.addFix, RuleName.warning] using member
      exact ⟨closing, closed, blank, rfl⟩
    · cases member

theorem selfClose_fixes_pairwise (relation : Fix → Fix → Prop) (e : Element) :
    (fixesOf (selfClose doc e)).Pairwise relation := by
  unfold selfClose
  split
  · exact List.Pairwise.nil
  · split
    · simp [fixesOf, Diagnostic.addFix, RuleName.warning]
    · exact List.Pairwise.nil

theorem mem_fixesOf_spaceBeforeTrailingSlash {e : Element}
    (member : f ∈ fixesOf (spaceBeforeTrailingSlash doc e)) :
    e.closing.isNone = true ∧ f.span = .point (e.span.stop - 2) := by
  unfold spaceBeforeTrailingSlash at member
  split at member
  · rename_i closed
    rw [Bool.and_eq_true] at closed
    dsimp only at member
    split at member
    · split at member
      · cases member
      · obtain rfl : f = .insert (e.span.stop - 2) " " := by
          simpa [fixesOf, Diagnostic.addFix, RuleName.warning] using member
        exact ⟨closed.1, rfl⟩
    · cases member
  · cases member

theorem spaceBeforeTrailingSlash_fixes_pairwise (relation : Fix → Fix → Prop) (e : Element) :
    (fixesOf (spaceBeforeTrailingSlash doc e)).Pairwise relation := by
  unfold spaceBeforeTrailingSlash
  split
  · dsimp only
    split
    · split
      · exact List.Pairwise.nil
      · simp [fixesOf, Diagnostic.addFix, RuleName.warning]
    · exact List.Pairwise.nil
  · exact List.Pairwise.nil

theorem fixesOf_whitespaceLiteral (span : Span) :
    fixesOf (whitespaceLiteral doc span) =
      (NonBreakingSpace.runsOf (doc.text span)).map fun run =>
        ⟨⟨span.start + run.1,
          span.start + run.1 + run.2 * NonBreakingSpace.entity.utf8ByteSize⟩,
          NonBreakingSpace.spaces run.2, none⟩ := by
  rw [fixesOf, whitespaceLiteral, List.flatMap_map]
  exact List.flatMap_pure_eq_map _ _

end Rule

/-! ### The fixes at one node -/

namespace Config

theorem flatMap_filter_of_nil {α : Type} {order : List RuleName} {p : RuleName → Bool}
    {f : RuleName → List α} (silent : ∀ r, p r = false → f r = []) :
    order.flatMap f = (order.filter p).flatMap f := by
  induction order with
  | nil => rfl
  | cons r order ih =>
    rw [List.flatMap_cons, ih, List.filter_cons]
    split
    · rw [List.flatMap_cons]
    · rename_i off
      rw [silent r (by simpa using off), List.nil_append]

theorem recommended_fixes_at (doc : Document) (v : Visit) (position : Position) :
    Rule.fixesOf (recommended.checkVisit doc v position) =
      Rule.fixesOf (v.onOpening (Rule.bracePresence ⟨.never⟩ doc))
        ++ (Rule.fixesOf (v.onElement (Rule.selfClose doc))
        ++ (Rule.fixesOf (v.onElement (Rule.spaceBeforeTrailingSlash doc))
        ++ Rule.fixesOf (v.onText (Rule.whitespaceLiteral doc)))) := by
  have silent : ∀ r, (r.isRecommended && r.hasFix) = false →
      Rule.fixesOf (recommended.say doc v position r) = [] := by
    intro r off
    rcases Bool.and_eq_false_iff.mp off with off | off
    · rw [say, recommended]
      dsimp only
      rw [off]
      rfl
    · refine List.flatMap_eq_nil_iff.mpr ?_
      intro d member
      have fixing := (recommended.say_issues doc v position r d member).fixes
      rw [off] at fixing
      simpa using fixing
  have fixing : RuleName.speakingOrder.filter (fun r => r.isRecommended && r.hasFix) =
      [.jsxCurlyBracePresence, .jsxSelfClose, .jsxSpaceBeforeTrailingSlash,
        .jsxWhitespaceLiteral] := by decide
  rw [checkVisit_eq, Rule.fixesOf, List.flatMap_assoc, flatMap_filter_of_nil silent, fixing]
  simp only [List.flatMap_cons, List.flatMap_nil, List.append_nil]
  rfl

end Config

namespace Visit

variable {doc : Document} {v : Visit} {f : Fix}

theorem bracesReplaced_of_mem (formed : v.node.WellFormed doc.source)
    (member : f ∈ Rule.fixesOf (v.onOpening (Rule.bracePresence ⟨.never⟩ doc))) :
    v.node.BracesReplaced f := by
  unfold onOpening at member
  split at member
  · rename_i o view
    rw [Rule.fixesOf, Rule.bracePresence, List.flatMap_assoc] at member
    obtain ⟨a, listed, member⟩ := List.mem_flatMap.mp member
    obtain ⟨container, e, text, braces, given, unbraced, span⟩ :=
      Rule.mem_fixesOf_bracePresenceOf member
    obtain ⟨c, child, named⟩ := Node.mem_attributes view listed
    obtain ⟨kind, name, value, parts, rfl⟩ := Node.attributeItem?_eq_named named
    obtain ⟨held, braceKind⟩ := Node.container?_eq_some braces
    obtain ⟨_, container', held', _, content⟩ := Node.expression?_eq_some given
    obtain rfl := Option.some.inj (held.symm.trans held')
    have inside : container ∈ c.children := by
      rw [parts]
      exact List.mem_cons_of_mem _ (List.mem_of_head? held)
    exact ⟨(Node.opening?_eq_some view).1, c, child, container, inside, kind, braceKind, span,
      Node.not_mayBeFixed_of_unbraced? ((formed.child child).child inside) braceKind content unbraced⟩
  · cases member

theorem tagsReplaced_of_mem (member : f ∈ Rule.fixesOf (v.onElement (Rule.selfClose doc))) :
    v.node.TagsReplaced doc.source f := by
  unfold onElement at member
  split at member
  · rename_i e view
    obtain ⟨closing, closed, blank, span⟩ := Rule.mem_fixesOf_selfClose member
    obtain ⟨form, _, opening, rest, parts, isOpening, children, found⟩ :=
      Node.element?_eq_some view
    obtain ⟨_, _, _, _, same⟩ := Node.opening?_eq_some isOpening
    rw [found] at closed
    refine ⟨form, opening, rest, parts, ⟨closing, List.mem_of_find?_eq_some closed,
      Node.isClosing_iff.mp (List.find?_some closed), ?_⟩, ?_⟩
    · rw [span, same]
    · -- What is not a closing tag is among the children, of which there is one at most.
      intro c later
      cases isClosing : c.isClosing with
      | true => exact Or.inl (Node.isClosing_iff.mp isClosing)
      | false =>
        have child : c ∈ e.children := by
          rw [children]
          exact List.mem_filter.mpr ⟨later, by rw [isClosing]; rfl⟩
        unfold Rule.hasNoContent at blank
        split at blank
        · rename_i none
          rw [none] at child
          cases child
        · rename_i only one
          rw [one] at child
          obtain rfl := List.mem_singleton.mp child
          exact Or.inr blank
        · cases blank
  · cases member

theorem slashMoved_of_mem
    (member : f ∈ Rule.fixesOf (v.onElement (Rule.spaceBeforeTrailingSlash doc))) :
    v.node.SlashMoved f := by
  unfold onElement at member
  split at member
  · rename_i e view
    obtain ⟨closed, span⟩ := Rule.mem_fixesOf_spaceBeforeTrailingSlash member
    obtain ⟨form, same, opening, rest, parts, _, _, found⟩ := Node.element?_eq_some view
    exact ⟨form, opening, rest, parts, by rw [← found]; exact closed, by rw [span, same]⟩
  · cases member

theorem runReplaced_of_mem (member : f ∈ Rule.fixesOf (v.onText (Rule.whitespaceLiteral doc))) :
    v.node.RunReplaced doc.source f := by
  unfold onText at member
  split at member
  · rename_i kind
    rw [Rule.fixesOf_whitespaceLiteral] at member
    obtain ⟨run, isRun, rfl⟩ := List.mem_map.mp member
    obtain ⟨positive, bound⟩ := (Rule.NonBreakingSpace.runsOf_spec _).2 run isRun
    have width := doc.source.size_slice_le v.node.span
    have entity : 0 < Rule.NonBreakingSpace.entity.utf8ByteSize := by decide
    have some := Nat.mul_pos positive entity
    refine ⟨kind, ?_, ?_⟩
    · cases blank : v.node.isBlankText doc.source with
      | false => rfl
      | true =>
        have text : isBlankText (doc.source.slice v.node.span) = true := by
          revert kind blank
          cases v.node with
          | mk k s cs =>
            rintro rfl blank
            exact blank
        rw [Document.text, Rule.NonBreakingSpace.runsOf_eq_nil_of_isBlankText text] at isRun
        cases isRun
    · simp only [Fix.Inside, Span.Within, Span.width, Document.text] at *
      omega
  · cases member

end Visit

/-! ### The fixes at two nodes -/

namespace Node

/-- A recommended rule makes the fix for the node. -/
def Replaced (source : Source) (n : Node) (f : Fix) : Prop :=
  n.BracesReplaced f ∨ n.TagsReplaced source f ∨ n.SlashMoved f ∨ n.RunReplaced source f

variable {source : Source} {n w : Node} {f g : Fix}

theorem Replaced.mayBeFixed (replaced : n.Replaced source f) : n.MayBeFixed := by
  rcases replaced with braces | tags | slash | run
  · exact Or.inl braces.1
  · exact Or.inr (Or.inr tags.1)
  · exact Or.inr (Or.inr slash.1)
  · exact Or.inr (Or.inl run.1)

theorem MayBeFixed.plain (fixed : n.MayBeFixed) :
    n.kind.mayBeDecorated = false ∧ n.kind.mayRespell = false ∧ n.kind.mayBeEmpty = false ∧
      n.kind.isSpelling = false ∧ n.kind ≠ .parameters := by
  rcases fixed with kind | kind | form
  · rw [kind]; simp [Kind.mayBeDecorated, Kind.mayRespell, Kind.mayBeEmpty, Kind.isSpelling]
  · rw [kind]; simp [Kind.mayBeDecorated, Kind.mayRespell, Kind.mayBeEmpty, Kind.isSpelling]
  · obtain ⟨decorated, respell, _, empty, spelling, parameters⟩ := element_plain form
    exact ⟨decorated, respell, empty, spelling, parameters⟩

theorem BracesReplaced.inside_part (formed : n.WellFormed source) (braces : n.BracesReplaced f) :
    ∃ a ∈ n.children, f.Inside a.extent := by
  obtain ⟨_, a, child, container, inside, _, kind, span, _⟩ := braces
  have formedContainer := ((formed.child child).child inside).root
  have nonempty := formedContainer.nonempty (by rw [kind]; rfl)
  have within := (span_within_extent container).trans (child_extent_within inside)
  refine ⟨a, child, ?_⟩
  rw [Fix.Inside, span]
  exact ⟨within, Nat.lt_of_lt_of_le nonempty within.2⟩

theorem Replaced.inside (formed : n.WellFormed source) (replaced : n.Replaced source f) :
    f.Inside n.span := by
  have plain := replaced.mayBeFixed.plain.1
  rcases replaced with braces | tags | slash | run
  · obtain ⟨a, child, inside⟩ := braces.inside_part formed
    exact inside.mono (formed.root.inside plain a child)
  · obtain ⟨form, opening, rest, parts, ⟨closing, later, _, span⟩, _⟩ := tags
    obtain ⟨_, _, start, nonempty, within⟩ := opening_of_element formed form parts
    have behind := formed.root.within_span plain
      (mem_preorder_of_child (show closing ∈ n.children by
        rw [parts]
        exact List.mem_cons_of_mem _ later))
    simp only [Fix.Inside, Span.Within, span] at *
    omega
  · obtain ⟨form, opening, rest, parts, open_, span⟩ := slash
    obtain ⟨_, some, _⟩ := opening_of_element formed form parts
    obtain ⟨c, child⟩ := List.exists_mem_of_ne_nil _ some
    have room := ((slash_of_element formed form parts open_).2 c child).2
    simp only [Fix.Inside, Span.Within, span, Span.point]
    omega
  · exact run.2.2.1

theorem Replaced.ordered (formed : n.WellFormed source) (replaced : n.Replaced source f) :
    f.span.start ≤ f.span.stop := by
  rcases replaced with braces | tags | slash | run
  · obtain ⟨_, a, child, container, inside, _, _, span, _⟩ := braces
    rw [span]
    exact ((formed.child child).child inside).root.ordered
  · obtain ⟨form, opening, rest, parts, ⟨closing, later, kind, span⟩, _⟩ := tags
    have formedClosing := formed.child (show closing ∈ n.children by
      rw [parts]
      exact List.mem_cons_of_mem _ later)
    have solid := formedClosing.root.nonempty (by rw [kind]; rfl)
    have behind := formed.root.behind_opening form parts later closing.self_mem_preorder solid
    rw [span]
    dsimp only
    omega
  · obtain ⟨_, _, _, _, _, span⟩ := slash
    rw [span]
    exact Nat.le_refl _
  · exact run.2.2.2

/-- Every fix in an opening tag is in one of its parts. -/
theorem Replaced.inside_part (formed : n.WellFormed source) (kind : n.kind = .jsxOpening)
    (below : w ∈ n.preorder) (replaced : w.Replaced source g) :
    ∃ c ∈ n.children, g.Inside c.extent := by
  rcases mem_preorder.mp below with rfl | deeper
  · rcases replaced with braces | tags | slash | run
    · exact braces.inside_part formed
    · have form := tags.1
      simp [form?, kind] at form
    · have form := slash.1
      simp [form?, kind] at form
    · have isText := run.1
      rw [kind] at isText
      cases isText
  · obtain ⟨c, child, inside⟩ := mem_descendants.mp deeper
    exact ⟨c, child, (replaced.inside (formed.of_mem below)).mono (span_within_extent_of_mem inside)⟩

theorem BracesReplaced.clear_below (formed : n.WellFormed source) (braces : n.BracesReplaced f)
    (below : w ∈ n.descendants) (replaced : w.Replaced source g) : f.Clear g := by
  obtain ⟨nKind, a, child, container, inside, aKind, kind, span, unfixed⟩ := braces
  have inPart := replaced.inside (formed.of_mem (mem_preorder.mpr (Or.inr below)))
  have nonempty := ((formed.child child).child inside).root.nonempty (by rw [kind]; rfl)
  have inBraces : f.Inside container.extent := by
    have within := span_within_extent container
    rw [Fix.Inside, span]
    exact ⟨within, Nat.lt_of_lt_of_le nonempty within.2⟩
  obtain ⟨c, child', inC⟩ := mem_descendants.mp below
  rcases formed.root.eq_or_apart (by rw [nKind]; rfl) child child' (Or.inl (by rw [nKind]; rfl)) with
    rfl | apart
  · -- Both fixes are in one attribute, and the second is not in the braces.
    rcases mem_preorder.mp inC with rfl | deeper
    · have fixed := replaced.mayBeFixed
      simp [MayBeFixed, form?, aKind] at fixed
    · obtain ⟨d, part, inD⟩ := mem_descendants.mp deeper
      rcases (formed.child child).root.eq_or_apart (by rw [aKind]; rfl) inside part
        (Or.inl (by rw [aKind]; rfl)) with rfl | apart
      · exact absurd replaced.mayBeFixed (unfixed w inD)
      · exact inBraces.clear (inPart.mono (span_within_extent_of_mem inD)) apart
  · exact (inBraces.mono (child_extent_within inside)).clear
      (inPart.mono (span_within_extent_of_mem inC)) apart

theorem TagsReplaced.clear_below (formed : n.WellFormed source) (tags : n.TagsReplaced source f)
    (below : w ∈ n.descendants) (replaced : w.Replaced source g) : f.Clear g := by
  obtain ⟨form, opening, rest, parts, ⟨closing, _, _, span⟩, blank⟩ := tags
  obtain ⟨kind, _, _, nonempty, _⟩ := opening_of_element formed form parts
  have child : ∀ c ∈ opening :: rest, c ∈ n.children := fun c member => by rwa [parts]
  obtain ⟨c, inParts, inC⟩ := mem_descendants.mp below
  rw [parts] at inParts
  rcases List.mem_cons.mp inParts with rfl | later
  · have formedOpening := formed.child (child _ List.mem_cons_self)
    obtain ⟨part, inOpening, inside⟩ := replaced.inside_part formedOpening kind inC
    have room := formedOpening.root.closes (by rw [kind]; rfl) part inOpening
    obtain ⟨⟨_, stop⟩, start⟩ := inside
    refine Or.inr ?_
    simp only [Fix.Before, span]
    omega
  · -- Behind the opening tag there are names of tags and white space, where nothing is fixed.
    have formedPart := formed.child (child c (List.mem_cons_of_mem _ later))
    exfalso
    rcases blank c later with isClosing | isBlank
    · rcases mem_preorder.mp inC with rfl | deeper
      · have fixed := replaced.mayBeFixed
        simp [MayBeFixed, form?, isClosing] at fixed
      · have name := formedPart.root.closing isClosing w deeper
        rcases replaced.mayBeFixed with kind | kind | form
        · rw [kind] at name; cases name
        · rw [kind] at name; cases name
        · rcases kind_of_form? form with kind | kind <;> (rw [kind] at name; cases name)
    · have text : c.kind = .jsxText := by
        unfold Node.isBlankText at isBlank
        split at isBlank
        · rfl
        · cases isBlank
      have leaf := formedPart.root.atomic (by rw [text]; rfl)
      obtain rfl := eq_of_mem_preorder_of_isEmpty leaf inC
      rcases replaced with braces | tags | slash | run
      · rw [braces.1] at text; cases text
      · have form := tags.1
        simp [form?, text] at form
      · have form := slash.1
        simp [form?, text] at form
      · rw [run.2.1] at isBlank; cases isBlank

theorem SlashMoved.clear_below (formed : n.WellFormed source) (slash : n.SlashMoved f)
    (below : w ∈ n.descendants) (replaced : w.Replaced source g) : f.Clear g := by
  obtain ⟨form, opening, rest, parts, open_, span⟩ := slash
  obtain ⟨kind, _, start, nonempty, _⟩ := opening_of_element formed form parts
  obtain ⟨same, room⟩ := slash_of_element formed form parts open_
  obtain ⟨c, inParts, inC⟩ := mem_descendants.mp below
  rw [parts] at inParts
  rcases List.mem_cons.mp inParts with rfl | later
  · have formedOpening := formed.child (by rw [parts]; exact List.mem_cons_self)
    obtain ⟨part, inOpening, inside⟩ := replaced.inside_part formedOpening kind inC
    have ends := (room part inOpening).1
    obtain ⟨⟨_, stop⟩, start⟩ := inside
    refine Or.inr ?_
    simp only [Fix.Before, span, Span.point]
    omega
  · -- The opening tag is all there is.
    have inside := mem_preorder.mpr (Or.inr below)
    have solid := (formed.formed inside).nonempty replaced.mayBeFixed.plain.2.2.1
    have behind := formed.root.behind_opening form parts later inC solid
    have within := formed.root.within_span (MayBeFixed.plain (Or.inr (Or.inr form))).1 inside
    have stop := within.2
    omega

theorem Replaced.clear_below (formed : n.WellFormed source) (first : n.Replaced source f)
    (below : w ∈ n.descendants) (second : w.Replaced source g) : f.Clear g := by
  rcases first with braces | tags | slash | run
  · exact braces.clear_below formed below second
  · exact tags.clear_below formed below second
  · exact slash.clear_below formed below second
  · have leaf := formed.root.atomic (by rw [run.1]; rfl)
    obtain ⟨c, child, _⟩ := mem_descendants.mp below
    rw [List.isEmpty_iff.mp leaf] at child
    cases child

end Node

/-! ### All fixes -/

namespace Visit

variable {doc : Document} {v : Visit} {position : Position}

theorem replaced_of_mem (formed : v.node.WellFormed doc.source) {f : Fix}
    (member : f ∈ Rule.fixesOf (Config.recommended.checkVisit doc v position)) :
    v.node.Replaced doc.source f := by
  rw [Config.recommended_fixes_at] at member
  simp only [List.mem_append] at member
  exact member.imp (bracesReplaced_of_mem formed) fun member =>
    member.imp tagsReplaced_of_mem fun member => member.imp slashMoved_of_mem runReplaced_of_mem

theorem bracePresence_fixes_clear (formed : v.node.WellFormed doc.source) :
    (Rule.fixesOf (v.onOpening (Rule.bracePresence ⟨.never⟩ doc))).Pairwise Fix.Clear := by
  unfold onOpening
  split
  · rename_i o view
    rw [Rule.fixesOf, Rule.bracePresence, List.flatMap_assoc, List.pairwise_flatMap]
    refine ⟨fun a _ => Rule.bracePresenceOf_fixes_pairwise _ a,
      formed.root.attributes_pairwise view ?_⟩
    have inside : ∀ c ∈ v.node.children, ∀ a, c.attributeItem? = some (.named a) →
        ∀ f ∈ Rule.fixesOf (Rule.bracePresenceOf .never doc a), f.Inside c.extent := by
      intro c child a named f member
      obtain ⟨container, _, _, braces, _, _, span⟩ := Rule.mem_fixesOf_bracePresenceOf member
      obtain ⟨_, name, value, parts, rfl⟩ := Node.attributeItem?_eq_named named
      obtain ⟨held, kind⟩ := Node.container?_eq_some braces
      have part : container ∈ c.children := by
        rw [parts]
        exact List.mem_cons_of_mem _ (List.mem_of_head? held)
      have nonempty := ((formed.child child).child part).root.nonempty (by rw [kind]; rfl)
      have within := (Node.span_within_extent container).trans (Node.child_extent_within part)
      rw [Fix.Inside, span]
      exact ⟨within, Nat.lt_of_lt_of_le nonempty within.2⟩
    intro c child d child' a b named named' apart f first g second
    exact (inside c child a named f first).clear (inside d child' b named' g second) apart
  · exact List.Pairwise.nil

theorem whitespaceLiteral_fixes_clear :
    (Rule.fixesOf (v.onText (Rule.whitespaceLiteral doc))).Pairwise Fix.Clear := by
  unfold onText
  split
  · rw [Rule.fixesOf_whitespaceLiteral]
    obtain ⟨beside, each⟩ := Rule.NonBreakingSpace.runsOf_spec (doc.text v.node.span)
    refine List.pairwise_map.mpr (beside.imp_of_mem ?_)
    intro first second isRun _ after
    have entity : 0 < Rule.NonBreakingSpace.entity.utf8ByteSize := by decide
    have some := Nat.mul_pos (each first isRun).1 entity
    refine Or.inl ⟨?_, ?_⟩
    · dsimp only
      omega
    · dsimp only
      omega
  · exact List.Pairwise.nil

theorem onElement_fixes_pairwise {relation : Fix → Fix → Prop} {check : Element → List Diagnostic}
    (each : ∀ e, (Rule.fixesOf (check e)).Pairwise relation) :
    (Rule.fixesOf (v.onElement check)).Pairwise relation := by
  unfold onElement
  split
  · exact each _
  · exact List.Pairwise.nil

theorem recommended_fixes_clear_at (formed : v.node.WellFormed doc.source) :
    (Rule.fixesOf (Config.recommended.checkVisit doc v position)).Pairwise Fix.Clear := by
  rw [Config.recommended_fixes_at, List.pairwise_append, List.pairwise_append,
    List.pairwise_append]
  refine ⟨bracePresence_fixes_clear formed,
    ⟨onElement_fixes_pairwise (Rule.selfClose_fixes_pairwise _),
      ⟨onElement_fixes_pairwise (Rule.spaceBeforeTrailingSlash_fixes_pairwise _),
        whitespaceLiteral_fixes_clear, ?slashRun⟩, ?tagsRest⟩, ?bracesRest⟩
  -- At one node only one of the rules makes fixes.
  case slashRun =>
    intro f first g second
    have form := (slashMoved_of_mem first).1
    simp [Node.form?, (runReplaced_of_mem second).1] at form
  case tagsRest =>
    intro f first g second
    obtain ⟨form, _, rest, parts, ⟨closing, later, kind, _⟩, _⟩ := tagsReplaced_of_mem first
    rcases List.mem_append.mp second with slash | run
    · obtain ⟨_, _, _, parts', open_, _⟩ := slashMoved_of_mem slash
      obtain ⟨_, rfl⟩ := List.cons.inj (parts.symm.trans parts')
      have absent := List.find?_eq_none.mp (Option.isNone_iff_eq_none.mp open_) closing later
      exact absurd (Node.isClosing_iff.mpr kind) absent
    · simp [Node.form?, (runReplaced_of_mem run).1] at form
  case bracesRest =>
    intro f first g second
    have kind := (bracesReplaced_of_mem formed first).1
    simp only [List.mem_append] at second
    rcases second with tags | slash | run
    · have form := (tagsReplaced_of_mem tags).1
      simp [Node.form?, kind] at form
    · have form := (slashMoved_of_mem slash).1
      simp [Node.form?, kind] at form
    · have text := (runReplaced_of_mem run).1
      rw [kind] at text
      cases text

end Visit

namespace Config

/-- The fixes of the recommended rules on a program are clear of each other and lie in its text. -/
theorem recommended_check_fixes {doc : Document} {root : Node} (formed : root.WellFormed doc.source) :
    (Rule.fixesOf (recommended.check doc root).diagnostics).Pairwise Fix.Clear ∧
      ∀ f ∈ Rule.fixesOf (recommended.check doc root).diagnostics, f.Fits doc.source.bytes := by
  have below : ∀ v ∈ root.visits, v.node.WellFormed doc.source :=
    fun v member => formed.of_mem (Visit.node_mem_preorder member)
  rw [check, Walk.findings_eq, Rule.fixesOf, List.flatMap_assoc]
  refine ⟨List.pairwise_flatMap.mpr ⟨?_, ?_⟩, ?_⟩
  · exact fun v member => Visit.recommended_fixes_clear_at (below v member)
  · refine formed.visits_apart.imp_of_mem ?_
    intro v w memberV memberW related f first g second
    have replacedF := Visit.replaced_of_mem (below v memberV) first
    have replacedG := Visit.replaced_of_mem (below w memberW) second
    rcases related with deeper | apart | spelling | parameters
    · exact replacedF.clear_below (below v memberV) deeper replacedG
    · exact ((replacedF.inside (below v memberV)).mono (Node.span_within_extent _)).clear
        ((replacedG.inside (below w memberW)).mono (Node.span_within_extent _)) apart
    · rw [replacedF.mayBeFixed.plain.2.2.2.1] at spelling
      cases spelling
    · exact absurd parameters replacedG.mayBeFixed.plain.2.2.2.2
  · intro f member
    obtain ⟨v, memberV, made⟩ := List.mem_flatMap.mp member
    have replaced := Visit.replaced_of_mem (below v memberV) made
    obtain ⟨⟨_, stop⟩, _⟩ := replaced.inside (below v memberV)
    refine ⟨replaced.ordered (below v memberV), ?_⟩
    rw [← Source.size_eq]
    exact Nat.le_trans stop (below v memberV).root.bounded

end Config

variable {ε : Type} {parse : Source → Dialect → Except ε Program} {text filename : String}
  {program : Program}

/-- The recommended rules need no names resolved, so one pass over a program that parses is all. -/
theorem lint_recommended (parsed : parse ⟨text⟩ (FileName.dialect filename) = .ok program) :
    lintWith parse text filename .recommended =
      .ok (Config.recommended.check
        (.ofText text (FileName.dialect filename) (some filename) program.comments)
        program.root) := by
  have single : Config.recommended.needsResolution = false := rfl
  rw [lint_eq_of_parse .recommended parsed, single]
  rfl

/-- On a text that parses, whatever the parser, the fixes of the recommended rules do not collide: of any
two, one ends before the other starts, and no two insert text at one offset. So they give one text when
they are all made, whatever the order, and that is the text that comes of making them where they are from
the last to the first. -/
theorem recommended_fixes_clear (parsed : parse ⟨text⟩ (FileName.dialect filename) = .ok program)
    (formed : program.root.WellFormed ⟨text⟩) :
    ∃ report, lintWith parse text filename .recommended = .ok report ∧
      ((Rule.fixesOf report.diagnostics).Pairwise fun f g =>
        (f.span.stop ≤ g.span.start ∨ g.span.stop ≤ f.span.start) ∧
          ¬ (f.isInsertion = true ∧ g.isInsertion = true ∧ f.span.start = g.span.start)) ∧
      ∀ order, order.Perm (Rule.fixesOf report.diagnostics) →
        Fix.applyAll order (Source.mk text).bytes =
            Fix.applyAll (Rule.fixesOf report.diagnostics) (Source.mk text).bytes ∧
          ((order.Pairwise fun f g => g.span.start ≤ f.span.start) →
            order.foldl (fun bytes f => f.apply bytes) (Source.mk text).bytes =
              Fix.applyAll (Rule.fixesOf report.diagnostics) (Source.mk text).bytes) := by
  refine ⟨_, lint_recommended parsed, ?_⟩
  obtain ⟨clear, fit⟩ := @Config.recommended_check_fixes
    (.ofText text (FileName.dialect filename) (some filename) program.comments) program.root formed
  generalize Rule.fixesOf _ = fixes at clear fit ⊢
  refine ⟨clear.imp ?_, ?_⟩
  · intro f g clear
    refine ⟨clear.imp (·.1) (·.1), ?_⟩
    rintro ⟨_, _, same⟩
    rcases clear with before | after
    · exact Nat.ne_of_lt before.2 same
    · exact Nat.ne_of_lt after.2 same.symm
  · intro order perm
    have clearOrder := (perm.pairwise_iff Fix.Clear.symm).mpr clear
    have fitOrder : ∀ f ∈ order, f.Fits (Source.mk text).bytes :=
      fun f member => fit f (perm.mem_iff.mp member)
    have same := Fix.applyAll_perm perm clearOrder fitOrder
    refine ⟨same, ?_⟩
    intro descending
    have before : order.Pairwise fun f g => g.Before f := by
      refine (descending.and clearOrder).imp ?_
      rintro f g ⟨later, before | after⟩
      · exact absurd before.2 (Nat.not_lt.mpr later)
      · exact after
    rw [← same, Fix.applyAll_of_descending before]

/-- A text with a fix of each kind. -/
def fixableText : String := "<A b=\x7b'c'\x7d d=\x7b<E></E>\x7d>&nbsp;<F/></A>"

set_option maxRecDepth 100000 in
theorem recommended_fixes_clear_of_fixableText :
    ∃ program, Program.parse ⟨fixableText⟩ (FileName.dialect "a.tsx") = .ok program ∧
      program.root.WellFormed ⟨fixableText⟩ ∧
      ∃ report, lint fixableText "a.tsx" .recommended = .ok report ∧
        (Rule.fixesOf report.diagnostics).Pairwise fun f g =>
          (f.span.stop ≤ g.span.start ∨ g.span.stop ≤ f.span.start) ∧
            ¬ (f.isInsertion = true ∧ g.isInsertion = true ∧ f.span.start = g.span.start) := by
  have parsed : ∃ program,
      Program.parse ⟨fixableText⟩ (FileName.dialect "a.tsx") = .ok program ∧
        program.root.WellFormed ⟨fixableText⟩ :=
    Program.exists_parse (by decide +kernel)
  obtain ⟨program, parse, formed⟩ := parsed
  obtain ⟨report, linted, apart, _⟩ := recommended_fixes_clear parse formed
  exact ⟨program, parse, formed, report, linted, apart⟩

end JsxCheck
