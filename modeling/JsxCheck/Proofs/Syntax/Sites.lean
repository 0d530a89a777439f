import JsxCheck.Proofs.Syntax.Tree
import Mathlib.Data.List.Sort

/-!
Places in a tree.

A place is given by the way down to it, the numbers of the children taken from the root on. One place
is above another when its way is the beginning of the other's, and the order of ways as words is the
order in which places are visited: parents first, and children from left to right.

A walk lists the places of the nodes it has an eye for and may be told not to look below some of
them. `mem_walk` says which places are listed and `walk_pairwise` in which order; the two determine the
list. `mem_outermost_or_existsUnique_above` is about walks that never look below what they list.
-/
namespace JsxCheck

/-- A place in a tree: the way down to it and the node that stands there. -/
structure Site where
  path : List Nat
  node : Node

namespace Site

variable {s t u : Site} {i j : Nat}

/-- The same place, seen from the node around the tree, which is its child of the given number. -/
def under (i : Nat) (s : Site) : Site := ⟨i :: s.path, s.node⟩

/-- The first place is passed on the way down to the second. -/
def Above (t s : Site) : Prop := t.path <+: s.path ∧ t.path ≠ s.path

instance (t s : Site) : Decidable (t.Above s) := inferInstanceAs (Decidable (_ ∧ _))

/-- The first place is visited before the second. -/
def Before (s t : Site) : Prop := s.path < t.path

@[simp] theorem under_path (i : Nat) (s : Site) : (s.under i).path = i :: s.path := rfl

@[simp] theorem under_node (i : Nat) (s : Site) : (s.under i).node = s.node := rfl

theorem Above.trans (first : t.Above s) (second : s.Above u) : t.Above u := by
  refine ⟨first.1.trans second.1, ?_⟩
  intro same
  have back : s.path <+: t.path := same ▸ second.1
  exact first.2 (first.1.eq_of_length (Nat.le_antisymm first.1.length_le back.length_le))

theorem Above.length_lt (above : t.Above s) : t.path.length < s.path.length :=
  Nat.lt_of_le_of_ne above.1.length_le fun same => above.2 (above.1.eq_of_length same)

theorem above_under_under : (t.under i).Above (s.under j) ↔ i = j ∧ t.Above s := by
  simp only [Above, under_path, List.cons_prefix_cons, ne_eq, List.cons.injEq, not_and]
  constructor
  · rintro ⟨⟨rfl, start⟩, different⟩
    exact ⟨rfl, start, different rfl⟩
  · rintro ⟨rfl, start, different⟩
    exact ⟨⟨rfl, start⟩, fun _ => different⟩

/-- Of two places on the way to a third, one is above the other or they are the same. -/
theorem Above.comparable (first : s.Above u) (second : t.Above u) :
    s.path = t.path ∨ s.Above t ∨ t.Above s := by
  by_cases same : s.path = t.path
  · exact Or.inl same
  · rcases List.prefix_or_prefix_of_prefix first.1 second.1 with start | start
    · exact Or.inr (Or.inl ⟨start, same⟩)
    · exact Or.inr (Or.inr ⟨start, Ne.symm same⟩)

theorem before_under_under : (s.under i).Before (t.under j) ↔ i < j ∨ i = j ∧ s.Before t :=
  List.cons_lt_cons_iff

instance : Std.Irrefl Before := ⟨fun s => List.lt_irrefl s.path⟩

instance : Std.Antisymm Before := ⟨fun _ _ first second => absurd first (List.lt_asymm second)⟩

end Site

namespace Node

variable {n : Node} {s t : Site}

/-- The node at the end of a way down. -/
def at? (n : Node) : List Nat → Option Node
  | [] => some n
  | i :: path => n.children[i]?.bind fun c => c.at? path

def Has (n : Node) (s : Site) : Prop := n.at? s.path = some s.node

theorem has_root (n : Node) : n.Has ⟨[], n⟩ := rfl

theorem has_iff : n.Has s ↔ s = ⟨[], n⟩ ∨
    ∃ (i : Nat) (c : Node) (t : Site), n.children[i]? = some c ∧ c.Has t ∧ s = t.under i := by
  obtain ⟨path, m⟩ := s
  cases path with
  | nil => simp [Has, at?, Site.under, eq_comm]
  | cons i path =>
    simp only [Has, at?, Option.bind_eq_some_iff, Site.mk.injEq, reduceCtorEq, false_and, false_or]
    constructor
    · rintro ⟨c, child, found⟩
      exact ⟨i, c, ⟨path, m⟩, child, found, rfl⟩
    · rintro ⟨j, c, t, child, found, same⟩
      obtain ⟨⟨rfl, rfl⟩, rfl⟩ : (i = j ∧ path = t.path) ∧ m = t.node := by
        simpa [Site.under] using same
      exact ⟨c, child, found⟩

theorem has_under {c : Node} {i : Nat} (child : n.children[i]? = some c) :
    n.Has (s.under i) ↔ c.Has s := by
  simp [Has, at?, child]

theorem at?_append (n : Node) (path further : List Nat) :
    n.at? (path ++ further) = (n.at? path).bind fun m => m.at? further := by
  induction path generalizing n with
  | nil => rfl
  | cons i path ih =>
    rw [List.cons_append, at?, at?]
    cases n.children[i]? with
    | none => rfl
    | some c => exact ih c

/-- What is below a place is below a child of the node there. -/
theorem Has.child_of_above (hasT : n.Has t) (has : n.Has s) (above : t.Above s) :
    ∃ i, i < t.node.children.length ∧ t.path ++ [i] <+: s.path := by
  obtain ⟨rest, whole⟩ := above.1
  cases rest with
  | nil => exact absurd (by simpa using whole) above.2
  | cons i rest =>
    have found : t.node.at? (i :: rest) = some s.node := by
      have split := at?_append n t.path (i :: rest)
      rwa [whole, has, show n.at? t.path = some t.node from hasT, eq_comm] at split
    obtain ⟨c, child, _⟩ := Option.bind_eq_some_iff.mp found
    refine ⟨i, (List.getElem?_eq_some_iff.mp child).1, rest, ?_⟩
    rw [← whole, List.append_assoc]
    rfl

theorem Has.eq (first : n.Has s) (second : n.Has t) (same : s.path = t.path) : s = t := by
  obtain ⟨path, m⟩ := s
  obtain ⟨_, m'⟩ := t
  obtain rfl : path = _ := same
  have := Option.some.inj (first.symm.trans second)
  exact congrArg _ this

theorem Has.mem_preorder (has : n.Has s) : s.node ∈ n.preorder := by
  induction n using childrenInduction generalizing s with
  | step n ih =>
    rcases has_iff.mp has with rfl | ⟨i, c, t, child, inside, rfl⟩
    · exact self_mem_preorder n
    · have member := List.mem_of_getElem? child
      have deeper : t.node ∈ c.preorder := ih c member inside
      exact preorder_trans deeper (mem_preorder_of_child member)

/-! ### Walks -/

mutual

/-- The places of the nodes that `seen` holds of, in the order of visits. What is below a place listed
that `skip` holds of is left out. -/
def walk (seen : Node → Bool) (skip : Site → Bool) : Node → List Site
  | mk k s cs =>
    if seen (mk k s cs) then
      ⟨[], mk k s cs⟩ :: if skip ⟨[], mk k s cs⟩ then [] else walkFrom seen skip 0 cs
    else walkFrom seen skip 0 cs

/-- The places listed below children, the first of which has the given number. -/
def walkFrom (seen : Node → Bool) (skip : Site → Bool) (i : Nat) : List Node → List Site
  | [] => []
  | n :: ns =>
    (n.walk seen fun s => skip (s.under i)).map (Site.under i) ++ walkFrom seen skip (i + 1) ns

end

variable {seen : Node → Bool} {skip : Site → Bool}

theorem walk_eq (n : Node) : n.walk seen skip =
    if seen n then ⟨[], n⟩ :: if skip ⟨[], n⟩ then [] else walkFrom seen skip 0 n.children
    else walkFrom seen skip 0 n.children := by
  cases n
  rw [walk, children]

theorem mem_walkFrom {i : Nat} {ns : List Node} : s ∈ walkFrom seen skip i ns ↔
    ∃ (j : Nat) (c : Node) (t : Site), ns[j]? = some c ∧
      t ∈ c.walk seen (fun t => skip (t.under (i + j))) ∧ s = t.under (i + j) := by
  induction ns generalizing i with
  | nil => simp [walkFrom]
  | cons n ns ih =>
    rw [walkFrom, List.mem_append, List.mem_map, ih]
    constructor
    · rintro (⟨t, listed, rfl⟩ | ⟨j, c, t, child, listed, rfl⟩)
      · exact ⟨0, n, t, rfl, listed, rfl⟩
      · refine ⟨j + 1, c, t, child, ?_⟩
        rw [Nat.add_right_comm i 1 j] at listed ⊢
        exact ⟨listed, rfl⟩
    · rintro ⟨j, c, t, child, listed, rfl⟩
      cases j with
      | zero =>
        obtain rfl : n = c := Option.some.inj child
        exact Or.inl ⟨t, listed, rfl⟩
      | succ j =>
        refine Or.inr ⟨j, c, t, child, ?_⟩
        rw [Nat.add_right_comm i 1 j]
        exact ⟨listed, rfl⟩

/-- A walk lists the root when it is seen, and what walks over the children list unless the root is seen
and skipped. -/
theorem mem_walk_step : s ∈ n.walk seen skip ↔ s = ⟨[], n⟩ ∧ seen n = true ∨
    (seen n = true → skip ⟨[], n⟩ = false) ∧ ∃ (i : Nat) (c : Node) (t : Site),
      n.children[i]? = some c ∧ t ∈ c.walk seen (fun t => skip (t.under i)) ∧ s = t.under i := by
  have below := @mem_walkFrom s seen skip 0 n.children
  simp only [Nat.zero_add] at below
  rw [← below, walk_eq]
  cases seen n <;> cases skip ⟨[], n⟩ <;> simp

/-- Listed is what is seen unless it is below something seen that is skipped. -/
theorem mem_walk : s ∈ n.walk seen skip ↔ n.Has s ∧ seen s.node = true ∧
    ∀ t, n.Has t → t.Above s → seen t.node = true → skip t = false := by
  induction n using childrenInduction generalizing s skip with
  | step n ih =>
    rw [mem_walk_step]
    constructor
    · rintro (⟨rfl, isSeen⟩ | ⟨passed, i, c, s, child, listed, rfl⟩)
      · refine ⟨n.has_root, isSeen, ?_⟩
        intro t _ above
        exact absurd above.length_lt (Nat.not_lt_zero _)
      · obtain ⟨has, isSeen, unskipped⟩ := (ih c (List.mem_of_getElem? child)).mp listed
        refine ⟨(has_under child).mpr has, isSeen, ?_⟩
        intro t hasT above seenT
        rcases has_iff.mp hasT with rfl | ⟨j, d, t, other, inD, rfl⟩
        · exact passed seenT
        · obtain ⟨rfl, higher⟩ := Site.above_under_under.mp above
          obtain rfl := Option.some.inj (child.symm.trans other)
          exact unskipped t inD higher seenT
    · rintro ⟨has, isSeen, unskipped⟩
      rcases has_iff.mp has with rfl | ⟨i, c, s, child, inC, rfl⟩
      · exact Or.inl ⟨rfl, isSeen⟩
      · have below : Site.Above ⟨[], n⟩ (s.under i) :=
          ⟨List.nil_prefix, (List.cons_ne_nil i s.path).symm⟩
        refine Or.inr ⟨unskipped _ n.has_root below, i, c, s, child,
          (ih c (List.mem_of_getElem? child)).mpr ⟨inC, isSeen, ?_⟩, rfl⟩
        intro t hasT above seenT
        exact unskipped _ ((has_under child).mpr hasT) (Site.above_under_under.mpr ⟨rfl, above⟩) seenT

theorem walkFrom_pairwise {i : Nat} {ns : List Node}
    (each : ∀ c ∈ ns, ∀ skip, (c.walk seen skip).Pairwise Site.Before) :
    (walkFrom seen skip i ns).Pairwise Site.Before := by
  induction ns generalizing i with
  | nil => exact List.Pairwise.nil
  | cons n ns ih =>
    rw [walkFrom, List.pairwise_append, List.pairwise_map]
    refine ⟨?_, ih fun c later => each c (List.mem_cons_of_mem _ later), ?_⟩
    · exact (each n List.mem_cons_self _).imp fun before =>
        Site.before_under_under.mpr (Or.inr ⟨rfl, before⟩)
    · intro s first t second
      obtain ⟨s, _, rfl⟩ := List.mem_map.mp first
      obtain ⟨j, _, t, _, _, rfl⟩ := mem_walkFrom.mp second
      exact Site.before_under_under.mpr (Or.inl (by omega))

/-- A walk lists parents before children and children from left to right. -/
theorem walk_pairwise (seen : Node → Bool) (skip : Site → Bool) (n : Node) :
    (n.walk seen skip).Pairwise Site.Before := by
  induction n using childrenInduction generalizing skip with
  | step n ih =>
    have inner : (walkFrom seen skip 0 n.children).Pairwise Site.Before := walkFrom_pairwise ih
    rw [walk_eq]
    split
    · split
      · exact List.pairwise_singleton _ _
      · refine List.pairwise_cons.mpr ⟨?_, inner⟩
        intro s listed
        obtain ⟨i, _, t, _, _, rfl⟩ := mem_walkFrom.mp listed
        exact List.nil_lt_cons _ _
    · exact inner

/-- What a walk lists is what a walk that skips nothing lists, less what is below places skipped. -/
theorem walk_eq_filter (seen : Node → Bool) (skip : Site → Bool) (n : Node) :
    n.walk seen skip = (n.walk seen fun _ => false).filter fun s =>
      decide (∀ t ∈ n.walk seen fun _ => false, t.Above s → skip t = false) := by
  refine (walk_pairwise seen skip n).eq_of_mem_iff ((walk_pairwise seen _ n).filter _) ?_
  intro s
  rw [List.mem_filter, decide_eq_true_iff]
  simp only [mem_walk, implies_true, and_true]
  grind

/-- Who has an eye for less lists a part of what a walk lists that skips nothing. -/
theorem walk_sublist {wider : Node → Bool} (less : ∀ n, seen n = true → wider n = true) :
    (n.walk seen skip).Sublist (n.walk wider fun _ => false) := by
  have listed := walk_pairwise seen skip n
  refine List.sublist_of_subperm_of_pairwise (List.subperm_of_subset listed.nodup ?_) listed
    (walk_pairwise wider _ n)
  intro s member
  obtain ⟨has, isSeen, _⟩ := mem_walk.mp member
  exact mem_walk.mpr ⟨has, less _ isSeen, fun _ _ _ _ => rfl⟩

/-! ### Outermost places -/

def outermost (p : Node → Bool) (n : Node) : List Site := n.walk p fun _ => true

variable {p : Node → Bool}

theorem mem_outermost : s ∈ n.outermost p ↔ n.Has s ∧ p s.node = true ∧
    ∀ t, n.Has t → t.Above s → p t.node = false := by
  rw [outermost, mem_walk]
  simp only [Bool.true_eq_false, imp_false, Bool.not_eq_true]

theorem not_above_of_mem_outermost (first : s ∈ n.outermost p) (second : t ∈ n.outermost p) :
    ¬ s.Above t := by
  intro above
  have unseen := (mem_outermost.mp second).2.2 s (mem_outermost.mp first).1 above
  rw [(mem_outermost.mp first).2.1] at unseen
  cases unseen

/-- What is not outermost is below exactly one outermost place. -/
theorem mem_outermost_or_existsUnique_above (has : n.Has s) (holds : p s.node = true) :
    s ∈ n.outermost p ∨ ∃! t, t ∈ n.outermost p ∧ t.Above s := by
  have found : s ∈ n.outermost p ∨ ∃ t ∈ n.outermost p, t.Above s := by
    induction h : s.path.length using Nat.strongRecOn generalizing s with
    | ind length ih =>
      by_cases outer : ∀ t, n.Has t → t.Above s → p t.node = false
      · exact Or.inl (mem_outermost.mpr ⟨has, holds, outer⟩)
      · push Not at outer
        obtain ⟨t, hasT, above, holdsT⟩ := outer
        have shorter : t.path.length < length := h ▸ above.length_lt
        rcases ih _ shorter hasT (by simpa using holdsT) rfl with listed | ⟨u, listed, higher⟩
        · exact Or.inr ⟨t, listed, above⟩
        · exact Or.inr ⟨u, listed, higher.trans above⟩
  refine found.imp id ?_
  rintro ⟨t, listed, above⟩
  refine ⟨t, ⟨listed, above⟩, ?_⟩
  rintro u ⟨found, higher⟩
  rcases higher.comparable above with same | up | down
  · exact (mem_outermost.mp found).1.eq (mem_outermost.mp listed).1 same
  · exact absurd up (not_above_of_mem_outermost found listed)
  · exact absurd down (not_above_of_mem_outermost listed found)

end Node

end JsxCheck
