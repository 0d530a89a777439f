import JsxCheck.Proofs.Rule.OnTags
import JsxCheck.Proofs.Rule.Runs

/-!
The rules on other nodes than tags and elements, and the spans that they point at twice.

Only the rule on identifiers points at a span twice: `noProptypes_nodup_iff` says that it does so
exactly for a name that is spelled once for two nodes.
-/
namespace JsxCheck

open Node Visit

variable {source : Source} {root : Node}

/-! ### Nodes that are longer than their parts -/

/-- No part of such a node has its span. -/
def Kind.outgrows (k : Kind) : Bool := k.opens || k.closes || k.isComposed

theorem Kind.outgrows_plain {k : Kind} (longer : k.outgrows = true) :
    k.isSpelling = false ∧ k ≠ .parameters ∧ k.mayBeEmpty = false := by
  cases k with
  | exprPart form =>
    cases form <;> first | exact absurd longer Bool.false_ne_true | exact ⟨rfl, by simp, rfl⟩
  | _ => first | exact absurd longer Bool.false_ne_true | exact ⟨rfl, by simp, rfl⟩

theorem Node.Formed.span_ne_below {n m : Node} (formed : n.Formed source)
    (longer : n.kind.outgrows = true) (below : m ∈ n.descendants) : m.span ≠ n.span := by
  obtain ⟨c, child, inside⟩ := mem_descendants.mp below
  have within := span_within_extent_of_mem inside
  intro same
  rw [same] at within
  rcases Bool.or_eq_true_iff.mp longer with edge | composed
  · rcases Bool.or_eq_true_iff.mp edge with opens | closes
    · exact Nat.not_le.mpr (formed.opens opens c child) within.1
    · exact Nat.not_le.mpr (formed.closes closes c child) within.2
  · exact formed.composed composed c child within

/-- A rule that points at most at nodes that are longer than their parts points at no span twice. -/
theorem nodup_onOutgrowing {f : Visit → List Diagnostic} (formed : root.WellFormed source)
    (own : ∀ v, f v = [] ∨ (v.node.kind.outgrows = true ∧ spansOf (f v) = [v.node.span])) :
    (spansOf (root.visits.flatMap f)).Nodup := by
  rw [spansOf, List.map_flatMap]
  refine nodup_of_own (p := fun n => n.kind.outgrows = true) formed
    (fun n => Kind.outgrows_plain) ?_ ?_
  · intro v _
    exact (own v).imp (fun none => by rw [none, List.map_nil]) id
  · intro n member longer m below _
    exact (formed.formed member).span_ne_below longer below

namespace Rule

theorem noMultilineJs_once (doc : Document) (formed : root.WellFormed source) :
    (spansOf (root.visits.flatMap (onContainer (noMultilineJs doc)))).Nodup := by
  refine nodup_onOutgrowing formed ?_
  intro v
  unfold onContainer
  split
  · rename_i kind
    unfold noMultilineJs
    split
    · exact Or.inr ⟨by rw [kind]; rfl, rfl⟩
    · exact Or.inl rfl
  · exact Or.inl rfl

theorem noAccessState_once (doc : Document) (formed : root.WellFormed source) :
    (spansOf (root.visits.flatMap (onForm .call (noAccessState doc)))).Nodup := by
  refine nodup_onOutgrowing formed ?_
  intro v
  unfold onForm
  split
  · rename_i form
    unfold noAccessState
    split
    · split
      · refine Or.inr ⟨?_, rfl⟩
        rcases kind_of_form? form with kind | kind <;> rw [kind] <;> rfl
      · exact Or.inl rfl
    · exact Or.inl rfl
  · exact Or.inl rfl

theorem implementScu_once (doc : Document) (formed : root.WellFormed source) :
    (spansOf (root.visits.flatMap fun v => implementScu doc v.node)).Nodup := by
  refine nodup_onOutgrowing formed ?_
  intro v
  unfold implementScu
  split
  · rename_i kind
    split
    · exact Or.inr ⟨by rw [kind]; rfl, rfl⟩
    · exact Or.inl rfl
  · exact Or.inl rfl

theorem interface?_eq_some {n : Node} {name : String} {members : List Node}
    (view : n.interface? = some (name, members)) :
    n.kind = .interfaceDeclaration ∧ ∃ body ∈ n.children, body.kind = .interfaceBody ∧
      members = body.children := by
  unfold Node.interface? at view
  split at view
  · obtain ⟨_, _, view⟩ := Option.bind_eq_some_iff.mp view
    obtain ⟨found, search, view⟩ := Option.bind_eq_some_iff.mp view
    cases view
    obtain ⟨body, listed, shape⟩ := List.exists_of_findSome?_eq_some search
    refine ⟨rfl, body, listed, ?_⟩
    split at shape
    · cases shape
      exact ⟨rfl, rfl⟩
    · cases shape
  · cases view

theorem namedPropInterface_once (doc : Document) (formed : root.WellFormed source) :
    (spansOf (root.visits.flatMap fun v => namedPropInterface doc v.node)).Nodup := by
  refine nodup_onOutgrowing formed ?_
  intro v
  unfold namedPropInterface
  split
  · rename_i view _
    split
    · exact Or.inr ⟨by rw [(interface?_eq_some view).1]; rfl, rfl⟩
    · exact Or.inl rfl
  · exact Or.inl rfl

/-! ### Braces and texts -/

namespace BraceSpacing

/-- Each of the two braces is pointed at once at most. -/
theorem spans_check (options : SpacingOptions) (doc : Document) (t : Tokens) :
    (spansOf (check options doc t)).Sublist [t.first, t.last] := by
  have two : ∀ {said told : List Diagnostic}, (spansOf said).Sublist [t.first] →
      (spansOf told).Sublist [t.last] → (spansOf (said ++ told)).Sublist [t.first, t.last] := by
    intro said told first last
    rw [spansOf, List.map_append]
    exact first.append last
  unfold check
  split
  · refine two ?_ ?_ <;> split <;> first | exact List.Sublist.refl _ | exact List.nil_sublist _
  · refine two ?_ ?_
    · split
      · split
        · exact List.nil_sublist _
        · exact List.Sublist.refl _
      · exact List.nil_sublist _
    · split
      · split
        · exact List.nil_sublist _
        · exact List.Sublist.refl _
      · exact List.nil_sublist _
  · exact List.nil_sublist _

/-- The rule points at the braces of a node, between which something stands. -/
theorem spans_onBraces (options : SpacingOptions) (doc : Document) (v : Visit) :
    spansOf (v.onBraces (braceSpacing options doc) (spreadSpacing options doc)) = [] ∨
      (v.node.kind.opens = true ∧ v.node.kind.closes = true ∧ v.node.children ≠ []) ∧
        (spansOf (v.onBraces (braceSpacing options doc) (spreadSpacing options doc))).Sublist
          [openBrace v.node.span, closeBrace v.node.span] := by
  have container : ∀ span content, (spansOf (braceSpacing options doc span content)).Sublist
      [openBrace span, closeBrace span] := by
    intro span content
    unfold braceSpacing containerTokens
    split <;> exact spans_check options doc _
  have spread : ∀ span value, (spansOf (spreadSpacing options doc span value)).Sublist
      [openBrace span, closeBrace span] := by
    intro span value
    unfold spreadSpacing
    split
    · rename_i tokens found
      obtain ⟨_, _, shape⟩ := Option.bind_eq_some_iff.mp found
      cases shape
      exact spans_check options doc _
    · exact List.nil_sublist _
  unfold onBraces
  split
  · rename_i shape
    rw [shape]
    exact Or.inr ⟨⟨rfl, rfl, List.cons_ne_nil _ _⟩, container _ _⟩
  · rename_i shape
    rw [shape]
    exact Or.inr ⟨⟨rfl, rfl, List.cons_ne_nil _ _⟩, spread _ _⟩
  · rename_i shape
    rw [shape]
    exact Or.inr ⟨⟨rfl, rfl, List.cons_ne_nil _ _⟩, spread _ _⟩
  · exact Or.inl rfl

end BraceSpacing

theorem braceSpacing_once (options : SpacingOptions) (doc : Document)
    (formed : root.WellFormed source) :
    (spansOf (root.visits.flatMap fun v =>
      v.onBraces (braceSpacing options doc) (spreadSpacing options doc))).Nodup := by
  -- There is room for two braces, which are at the edges of the node.
  have room : ∀ v ∈ root.visits, v.node.kind.opens = true → v.node.kind.closes = true →
      v.node.children ≠ [] → v.node.span.start + 1 < v.node.span.stop := by
    intro v member opens closes some
    obtain ⟨content, child⟩ := List.exists_mem_of_ne_nil _ some
    have here := formed.of_mem (node_mem_preorder member)
    have after := here.root.opens opens content child
    have before := here.root.closes closes content child
    have ordered := (here.child child).root.ordered
    obtain ⟨low, high⟩ := span_within_extent content
    omega
  have edges : ∀ v ∈ root.visits,
      ∀ s ∈ spansOf (v.onBraces (braceSpacing options doc) (spreadSpacing options doc)),
      v.node.kind.opens = true ∧ v.node.kind.closes = true ∧
        v.node.span.start + 1 < v.node.span.stop ∧
          (s.start = v.node.span.start ∨ s.start = v.node.span.stop - 1) := by
    intro v member s said
    rcases BraceSpacing.spans_onBraces options doc v with none | ⟨⟨opens, closes, some⟩, sub⟩
    · rw [none] at said
      cases said
    · refine ⟨opens, closes, room v member opens closes some, ?_⟩
      rcases List.mem_pair.mp (sub.subset said) with rfl | rfl
      · exact Or.inl rfl
      · exact Or.inr rfl
  rw [spansOf, List.map_flatMap, List.nodup_flatMap]
  refine ⟨?_, disjoint_of_below formed ?_ ?_ ?_⟩
  · intro v member
    rcases BraceSpacing.spans_onBraces options doc v with none | ⟨⟨opens, closes, some⟩, sub⟩
    · rw [← spansOf, none]
      exact List.nodup_nil
    · have space := room v member opens closes some
      refine List.Nodup.sublist sub (List.nodup_cons.mpr ⟨?_, List.nodup_singleton _⟩)
      rw [List.mem_singleton]
      intro same
      have starts : v.node.span.start = v.node.span.stop - 1 := congrArg Span.start same
      omega
  · intro v member some
    obtain ⟨s, said⟩ := List.exists_mem_of_ne_nil _ some
    have opens := (edges v member s said).1
    obtain ⟨spelling, parameters, _⟩ := Kind.outgrows_plain (k := v.node.kind)
      (by rw [Kind.outgrows, opens]; rfl)
    exact ⟨spelling, parameters⟩
  · intro v member s said
    obtain ⟨_, _, space, edge⟩ := edges v member s said
    exact Span.Holds.mono (a := v.node.span) ⟨by omega, by omega⟩ (span_within_extent _)
  · intro v memberV w memberW below s first second
    obtain ⟨opens, closes, spaceV, edgeV⟩ := edges v memberV s first
    obtain ⟨_, _, spaceW, edgeW⟩ := edges w memberW s second
    obtain ⟨c, child, inside⟩ := mem_descendants.mp below
    have here := formed.formed (node_mem_preorder memberV)
    have after := here.opens opens c child
    have before := here.closes closes c child
    obtain ⟨low, high⟩ := span_within_extent_of_mem inside
    omega

theorem spans_whitespaceLiteral (doc : Document) (text : Span) :
    spansOf (whitespaceLiteral doc text) =
      (NonBreakingSpace.runsOf (doc.text text)).map fun run =>
        ⟨text.start + run.1, text.start + run.1 + run.2 * NonBreakingSpace.entity.utf8ByteSize⟩ := by
  rw [spansOf, whitespaceLiteral, List.map_map]
  rfl

theorem whitespaceLiteral_once (doc : Document) (formed : root.WellFormed source) :
    (spansOf (root.visits.flatMap (onText (whitespaceLiteral doc)))).Nodup := by
  have entity : 0 < NonBreakingSpace.entity.utf8ByteSize := by decide
  have said : ∀ v : Visit, ∀ s ∈ spansOf (v.onText (whitespaceLiteral doc)),
      v.node.kind = .jsxText ∧ v.node.span.Holds s.start := by
    intro v s told
    unfold onText at told
    split at told
    · rename_i kind
      rw [spans_whitespaceLiteral] at told
      obtain ⟨run, isRun, rfl⟩ := List.mem_map.mp told
      obtain ⟨positive, bound⟩ := (NonBreakingSpace.runsOf_spec _).2 run isRun
      have some := Nat.mul_pos positive entity
      have width := doc.source.size_slice_le v.node.span
      refine ⟨kind, Nat.le_add_right _ _, ?_⟩
      simp only [Document.text, Span.width] at bound width ⊢
      omega
    · cases told
  rw [spansOf, List.map_flatMap, List.nodup_flatMap]
  refine ⟨?_, disjoint_of_below formed ?_ ?_ ?_⟩
  · intro v _
    unfold onText
    split
    · rw [← spansOf, spans_whitespaceLiteral]
      obtain ⟨beside, each⟩ := NonBreakingSpace.runsOf_spec (doc.text v.node.span)
      refine List.pairwise_map.mpr (beside.imp_of_mem ?_)
      intro first second isRun _ after same
      have some := Nat.mul_pos (each first isRun).1 entity
      have starts := congrArg Span.start same
      dsimp only at starts
      omega
    · exact List.nodup_nil
  · intro v _ some
    obtain ⟨s, told⟩ := List.exists_mem_of_ne_nil _ some
    rw [(said v s told).1]
    exact ⟨rfl, by decide⟩
  · intro v _ s told
    exact (said v s told).2.mono (span_within_extent _)
  · intro v member w _ below s first _
    -- A text has no parts.
    have leaf := (formed.formed (node_mem_preorder member)).atomic (by rw [(said v s first).1]; rfl)
    obtain ⟨c, child, _⟩ := mem_descendants.mp below
    rw [List.isEmpty_iff.mp leaf] at child
    cases child

end Rule

/-! ### Identifiers -/

/-- A name that stands for two nodes below a node is spelled once. -/
def Node.SpelledForTwo (root : Node) (text : String) : Prop :=
  ∃ n ∈ root.preorder, ∃ a b, [a, b].Sublist n.children ∧ a.identifier? = some text ∧
    ∃ m ∈ b.preorder, m.identifier? = some text ∧ m.span = a.span

theorem Node.identifier_plain {n : Node} {text : String} (identifier : n.identifier? = some text) :
    n.kind.isAtomic = true ∧ n.kind.mayBeEmpty = false ∧ n.kind ≠ .parameters := by
  unfold identifier? at identifier
  split at identifier <;> cases identifier
  all_goals
    rename_i kind
    rw [kind]
    exact ⟨rfl, rfl, by simp⟩

namespace Rule

theorem mem_noProptypes {n : Node} {s : Span} (said : s ∈ spansOf (noProptypes n)) :
    n.identifier? = some "propTypes" ∧ s = n.span := by
  unfold noProptypes at said
  split at said
  · rename_i identifier
    exact ⟨beq_iff_eq.mp identifier, List.mem_singleton.mp said⟩
  · cases said

theorem spans_noProptypes {n : Node} (identifier : n.identifier? = some "propTypes") :
    spansOf (noProptypes n) = [n.span] := by
  rw [noProptypes, if_pos (beq_iff_eq.mpr identifier)]
  rfl

/-- The rule on identifiers points at no span twice exactly when no such name is spelled once for two
nodes. -/
theorem noProptypes_nodup_iff (formed : root.WellFormed source) :
    (spansOf (root.visits.flatMap fun v => noProptypes v.node)).Nodup ↔
      ¬ root.SpelledForTwo "propTypes" := by
  constructor
  · rintro once ⟨n, inside, a, b, order, first, m, below, second, same⟩
    have visited : [a, m].Sublist root.preorder :=
      Branched.sublist ⟨n, inside, a, b, order, self_mem_preorder a, below⟩
    rw [spansOf, List.map_flatMap] at once
    have twice := visited.flatMap fun n => spansOf (noProptypes n)
    rw [preorder, List.flatMap_map, List.flatMap_cons, List.flatMap_singleton,
      spans_noProptypes first, spans_noProptypes second, same] at twice
    exact List.not_nodup_pair _ (once.sublist twice)
  · intro alone
    rw [spansOf, List.map_flatMap, List.nodup_flatMap]
    refine ⟨?_, (visits_pairwise [] root).imp_of_mem ?_⟩
    · intro v _
      unfold noProptypes
      split
      · exact List.nodup_singleton _
      · exact List.nodup_nil
    · intro v w memberV memberW related s one two
      obtain ⟨first, rfl⟩ := mem_noProptypes one
      obtain ⟨second, same⟩ := mem_noProptypes two
      have formedV := formed.formed (node_mem_preorder memberV)
      obtain ⟨atomic, full, _⟩ := identifier_plain first
      rcases related with below | ⟨n, inside, c, d, order, inC, inD⟩
      · obtain ⟨c, child, _⟩ := mem_descendants.mp below
        rw [List.isEmpty_iff.mp (formedV.atomic atomic)] at child
        cases child
      · rcases (formed.formed inside).beside_below order inC inD (identifier_plain second).2.2 with
          apart | ⟨_, _, here⟩
        · exact (apart.within (span_within_extent _) (span_within_extent _)).ne
            (formedV.nonempty full) same
        · rw [here] at first same
          exact alone ⟨n, inside, c, d, order, first, w.node, inD, second, same.symm⟩

end Rule

end JsxCheck
