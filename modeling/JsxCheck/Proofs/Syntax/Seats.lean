import JsxCheck.Proofs.Syntax.Formed

/-!
Which node an offset belongs to.

A rule that looks at some nodes of a program points at offsets inside them, and the nodes may be
nested. An offset is seated in a node when it is strictly inside it and strictly inside no such node
below. `nodup_of_seated` says that a rule never points twice at one span when what it points at is
seated in the node it looks at.
-/
namespace JsxCheck

/-- The offset of a byte under the span. -/
def Span.Holds (s : Span) (k : Nat) : Prop := s.start ≤ k ∧ k < s.stop

theorem Span.Holds.mono {a b : Span} {k : Nat} (holds : a.Holds k) (within : a.Within b) :
    b.Holds k := ⟨Nat.le_trans within.1 holds.1, Nat.lt_of_lt_of_le holds.2 within.2⟩

theorem Span.Holds.not_apart {a b : Span} {k : Nat} (first : a.Holds k) (second : b.Holds k)
    (apart : a.Apart b) : False := by
  obtain ⟨low, high⟩ := first
  obtain ⟨low', high'⟩ := second
  rcases apart with before | after <;> omega

namespace Node

variable {source : Source} {root : Node}

/-! ### What is said of nested nodes -/

/-- What is said of two visits differs when it is inside their nodes, and nothing said of a node is
said of a node below. -/
theorem disjoint_of_below {f : Visit → List Span} (formed : root.WellFormed source)
    (plain : ∀ v ∈ root.visits, f v ≠ [] →
      v.node.kind.isSpelling = false ∧ v.node.kind ≠ .parameters)
    (inside : ∀ v ∈ root.visits, ∀ s ∈ f v, v.node.extent.Holds s.start)
    (below : ∀ v ∈ root.visits, ∀ w ∈ root.visits, w.node ∈ v.node.descendants →
      ∀ s ∈ f v, s ∉ f w) :
    root.visits.Pairwise fun v w => (f v).Disjoint (f w) := by
  refine formed.visits_apart.imp_of_mem ?_
  intro v w memberV memberW related s first second
  rcases related with deeper | apart | spelling | parameters
  · exact below v memberV w memberW deeper s first second
  · exact (inside v memberV s first).not_apart (inside w memberW s second) apart
  · rw [(plain v memberV (List.ne_nil_of_mem first)).1] at spelling
    cases spelling
  · exact (plain w memberW (List.ne_nil_of_mem second)).2 parameters

/-- A rule that points at most at the nodes it looks at points at no span twice when none of these
has the span of one below. -/
theorem nodup_of_own {p : Node → Prop} {f : Visit → List Span} (formed : root.WellFormed source)
    (plain : ∀ n, p n → n.kind.isSpelling = false ∧ n.kind ≠ .parameters ∧
      n.kind.mayBeEmpty = false)
    (own : ∀ v ∈ root.visits, f v = [] ∨ (p v.node ∧ f v = [v.node.span]))
    (room : ∀ n ∈ root.preorder, p n → ∀ m ∈ n.descendants, p m → m.span ≠ n.span) :
    (root.visits.flatMap f).Nodup := by
  have said : ∀ v ∈ root.visits, ∀ s ∈ f v, p v.node ∧ s = v.node.span := by
    intro v member s told
    rcases own v member with none | ⟨holds, one⟩
    · rw [none] at told
      cases told
    · rw [one] at told
      exact ⟨holds, List.mem_singleton.mp told⟩
  refine List.nodup_flatMap.mpr ⟨?_, disjoint_of_below formed ?_ ?_ ?_⟩
  · intro v member
    rcases own v member with none | ⟨_, one⟩
    · rw [none]
      exact List.nodup_nil
    · rw [one]
      exact List.nodup_singleton _
  · intro v member some
    obtain ⟨s, told⟩ := List.exists_mem_of_ne_nil _ some
    obtain ⟨spelling, parameters, _⟩ := plain _ (said v member s told).1
    exact ⟨spelling, parameters⟩
  · intro v member s told
    obtain ⟨holds, rfl⟩ := said v member s told
    have nonempty := (formed.formed (Visit.node_mem_preorder member)).nonempty (plain _ holds).2.2
    exact Span.Holds.mono (a := v.node.span) ⟨Nat.le_refl _, nonempty⟩ (span_within_extent _)
  · intro v memberV w memberW deeper s first second
    obtain ⟨holdsV, rfl⟩ := said v memberV s first
    obtain ⟨holdsW, same⟩ := said w memberW _ second
    exact room _ (Visit.node_mem_preorder memberV) holdsV _ deeper holdsW same.symm

/-- A rule that points at no span twice points at each for one visit only. -/
theorem visit_eq_of_nodup {f : Visit → List Span} (once : (root.visits.flatMap f).Nodup) {v w : Visit}
    (visited : v ∈ root.visits) (visited' : w ∈ root.visits) {s : Span} (here : s ∈ f v)
    (there : s ∈ f w) : v = w := by
  by_contra different
  have symmetric : Std.Symm (Function.onFun List.Disjoint f) :=
    ⟨fun _ _ disjoint _ first second => disjoint second first⟩
  have disjoint : (f v).Disjoint (f w) :=
    (List.nodup_flatMap.mp once).2.forall visited visited' different
  exact disjoint here there

/-! ### Seats -/

/-- The offset is strictly inside no node of the tree that the predicate holds of. -/
def Free (p : Node → Bool) (n : Node) (k : Nat) : Prop :=
  ∀ m ∈ n.preorder, p m = true → k ≤ m.span.start ∨ m.span.stop ≤ k

/-- The offset is in the tree and strictly inside no node of it that the predicate holds of. -/
def Seat (p : Node → Bool) (n : Node) (k : Nat) : Prop := n.extent.Holds k ∧ Free p n k

/-- The predicate holds of the node, and the offset is strictly inside it and strictly inside no node
below that the predicate holds of. -/
structure Seated (p : Node → Bool) (n : Node) (k : Nat) : Prop where
  holds : p n = true
  inside : n.span.start < k ∧ k < n.span.stop
  below : ∀ m ∈ n.descendants, p m = true → k ≤ m.span.start ∨ m.span.stop ≤ k

variable {p : Node → Bool} {n c : Node} {k : Nat}

/-- Nothing in a tree starts before it. -/
theorem seat_start (formed : n.Formed source) (plain : n.kind.mayBeDecorated = false)
    (nonempty : n.span.start < n.span.stop) : Seat p n n.span.start := by
  refine ⟨?_, fun m inside _ => Or.inl (formed.within_span plain inside).1⟩
  rw [formed.extent_eq_span plain]
  exact ⟨Nat.le_refl _, nonempty⟩

/-- What lies in one part of a node lies in no other part. -/
theorem Seat.free_descendants (seat : Seat p c k) (formed : n.Formed source)
    (unspelled : n.kind.mayRespell = false) (child : c ∈ n.children)
    (plain : n.kind.mayTakeThis = false ∨ c.IsPlainPart) :
    ∀ m ∈ n.descendants, p m = true → k ≤ m.span.start ∨ m.span.stop ≤ k := by
  intro m below holds
  obtain ⟨d, child', inside⟩ := mem_descendants.mp below
  rcases formed.eq_or_apart unspelled child child' plain with rfl | apart
  · exact seat.2 m inside holds
  · by_contra strictly
    have here : d.extent.Holds k :=
      Span.Holds.mono (a := m.span) ⟨by omega, by omega⟩ (span_within_extent_of_mem inside)
    exact seat.1.not_apart here apart

theorem Seat.lift (seat : Seat p c k) (formed : n.Formed source)
    (unspelled : n.kind.mayRespell = false) (child : c ∈ n.children)
    (plain : n.kind.mayTakeThis = false ∨ c.IsPlainPart) (passed : p n = false) : Seat p n k := by
  refine ⟨seat.1.mono (child_extent_within child), ?_⟩
  intro m inside holds
  rcases mem_preorder.mp inside with rfl | below
  · rw [passed] at holds
    cases holds
  · exact seat.free_descendants formed unspelled child plain m below holds

theorem Seat.seated (seat : Seat p c k) (formed : n.Formed source)
    (unspelled : n.kind.mayRespell = false) (child : c ∈ n.children)
    (plain : n.kind.mayTakeThis = false ∨ c.IsPlainPart) (holds : p n = true)
    (inside : n.span.start < k ∧ k < n.span.stop) : Seated p n k :=
  ⟨holds, inside, seat.free_descendants formed unspelled child plain⟩

/-- What a rule points at for two nodes differs when it is seated in the nodes. -/
theorem disjoint_of_seated {f : Visit → List Span} (formed : root.WellFormed source)
    (plain : ∀ n, p n = true → n.kind.isSpelling = false ∧ n.kind ≠ .parameters)
    (seated : ∀ v ∈ root.visits, ∀ s ∈ f v, Seated p v.node s.start) :
    root.visits.Pairwise fun v w => (f v).Disjoint (f w) := by
  refine disjoint_of_below formed ?_ ?_ ?_
  · intro v member some
    obtain ⟨s, said⟩ := List.exists_mem_of_ne_nil _ some
    exact plain _ (seated v member s said).holds
  · intro v member s said
    have strictly := (seated v member s said).inside
    exact Span.Holds.mono (a := v.node.span) ⟨by omega, strictly.2⟩ (span_within_extent _)
  · intro v memberV w memberW below s first second
    have inW := seated w memberW s second
    have strictly := inW.inside
    rcases (seated v memberV s first).below w.node below inW.holds with before | after <;> omega

/-- A rule that points at offsets seated in the nodes it looks at points at no span twice when it
does not so at one node. -/
theorem nodup_of_seated {f : Visit → List Span} (formed : root.WellFormed source)
    (plain : ∀ n, p n = true → n.kind.isSpelling = false ∧ n.kind ≠ .parameters)
    (once : ∀ v ∈ root.visits, (f v).Nodup)
    (seated : ∀ v ∈ root.visits, ∀ s ∈ f v, Seated p v.node s.start) :
    (root.visits.flatMap f).Nodup :=
  List.nodup_flatMap.mpr ⟨once, disjoint_of_seated formed plain seated⟩

end Node

end JsxCheck
