import JsxCheck.Proofs.Source.ByteOrder
import JsxCheck.Rule.Attributes.Order
import Mathlib.Order.WithBot

/-!
Attributes in order.

The rule keeps the key and the group of the last item only, and compares an item with these. `Admits`
says which items may follow what a state was left by, and `admits_next` that a state so stands for all
items in front of it. `sortProps_reports_first` is the main statement: nothing is reported exactly when
all pairs of items are in order, and otherwise the first item that is out of order with one in front.
-/
namespace JsxCheck.Rule

namespace SortProps

/-- A place in an order, the last one of all for a kind that has none. -/
def height : Option Nat → WithTop Nat
  | some rank => WithTop.some rank
  | none => ⊤

/-- The rank of an item, infinite for a kind that is not listed and where no order is set. -/
def rankOf (options : SortPropsOptions) (item : AttributeItem) : WithTop Nat :=
  height (options.order.bind fun order => rank? order item.propKind)

/-- The bytes that an attribute is sorted by. -/
def keyBytes (options : SortPropsOptions) (a : Attribute) : List UInt8 :=
  (Source.mk (sortKey options a.name)).bytes

/-- An item may stand in front of another. -/
def InOrder (options : SortPropsOptions) (i j : AttributeItem) : Prop :=
  rankOf options i ≤ rankOf options j ∧
    ∀ a ∈ i.attribute?, ∀ b ∈ j.attribute?, rankOf options i = rankOf options j →
      keyBytes options a ≤ keyBytes options b

/-- Every item may stand in front of all that follow it. -/
def Sorted (options : SortPropsOptions) (items : List AttributeItem) : Prop :=
  items.Pairwise (InOrder options)

/-- What is said of an item that is out of order behind the last one in order: its rank drops, or its
name comes too late. -/
inductive IsFault (options : SortPropsOptions) (last item : AttributeItem) : Diagnostic → Prop where
  | rankDrops (drops : rankOf options item < rankOf options last) :
    IsFault options last item (RuleName.jsxSortProps.warning item.span
      (item.propKind.text ++ " properties should come before " ++ last.propKind.text
        ++ " properties"))
  | nameUnsorted {a : Attribute} (keeps : rankOf options last ≤ rankOf options item)
    (named : item = .named a) :
    IsFault options last item (RuleName.jsxSortProps.warning a.nameSpan
      ("The key '" ++ a.name ++ "' is not sorted alphabetically"))

/-! ### Ranks -/

theorem height_injective {r s : Option Nat} (same : height r = height s) : r = s := by
  cases r <;> cases s <;> simp_all [height]

theorem height_lt_iff {rank last : Option Nat} :
    height rank < height last ↔ ∃ r, rank = some r ∧ last.all (r < ·) = true := by
  cases rank <;> cases last <;> simp [height]

theorem isGroupedLate_eq_some_iff {s : State} {rank : Option Nat} {kind : PropKind} :
    isGroupedLate s rank = some kind ↔
      ∃ last, s.lastGroup = some (last, kind) ∧ height rank < height last := by
  unfold isGroupedLate
  simp only [height_lt_iff]
  split
  · rename_i last kind' r group
    rw [group]
    constructor
    · intro late
      split at late
      · rename_i lower
        cases late
        exact ⟨last, rfl, r, rfl, lower⟩
      · cases late
    · rintro ⟨_, same, _, found, lower⟩
      cases same
      cases found
      rw [if_pos lower]
  · rename_i other
    simp only [reduceCtorEq, false_iff]
    rintro ⟨last, group, r, rfl, _⟩
    exact other last kind r group rfl

/-! ### One item -/

/-- Groups are kept exactly when an order is set, and a key only with its group. -/
structure Coherent (options : SortPropsOptions) (s : State) : Prop where
  ungrouped : options.order = none → s.lastGroup = none
  keyless : options.order ≠ none → s.lastGroup = none → s.lastKey = none

/-- The key that the name of an item is compared with. -/
def keyInGroup (options : SortPropsOptions) (s : State) (item : AttributeItem) : Option String :=
  if ∀ group ∈ s.lastGroup, height group.1 = rankOf options item then s.lastKey else none

/-- The state that the items in front left lets the item follow. -/
def Admits (options : SortPropsOptions) (s : State) (item : AttributeItem) : Prop :=
  (∀ group ∈ s.lastGroup, height group.1 ≤ rankOf options item) ∧
    ∀ a ∈ item.attribute?, ∀ key ∈ keyInGroup options s item, key ≤ sortKey options a.name

def step (options : SortPropsOptions) (s : State) (item : AttributeItem) : Except Diagnostic State :=
  enterGroup options s item >>= fun s => enterName options s item

/-- The state in the group of an item. -/
def grouped (options : SortPropsOptions) (s : State) (item : AttributeItem) : State where
  lastKey := keyInGroup options s item
  lastGroup := options.order.map fun order => (rank? order item.propKind, item.propKind)

/-- The state behind an item that may follow. -/
def next (options : SortPropsOptions) (s : State) : AttributeItem → State
  | .named a => { grouped options s (.named a) with lastKey := some (sortKey options a.name) }
  | .spread span argument => grouped options s (.spread span argument)

variable {options : SortPropsOptions} {s : State} {item : AttributeItem}

theorem rankOf_of_order {order : List PropKind} (set : options.order = some order) :
    rankOf options item = height (rank? order item.propKind) := by
  rw [rankOf, set, Option.bind_some]

theorem enterGroup_of_not_late (coherent : Coherent options s)
    (inPlace : ∀ group ∈ s.lastGroup, height group.1 ≤ rankOf options item) :
    enterGroup options s item = .ok (grouped options s item) := by
  unfold enterGroup grouped keyInGroup
  cases set : options.order with
  | none =>
    have ungrouped := coherent.ungrouped set
    rw [if_pos (by rw [ungrouped]; nofun), Option.map_none, ← ungrouped]
  | some order =>
    rw [rankOf_of_order set] at inPlace ⊢
    have notLate : isGroupedLate s (rank? order item.propKind) = none := by
      refine Option.eq_none_iff_forall_ne_some.mpr fun kind late => ?_
      obtain ⟨last, group, drops⟩ := isGroupedLate_eq_some_iff.mp late
      exact absurd drops (not_lt.mpr (inPlace _ group))
    dsimp only
    rw [notLate]
    cases group : s.lastGroup with
    | none =>
      rw [coherent.keyless (by rw [set]; exact Option.some_ne_none _) group]
      simp
    | some last =>
      have same : last.1 = rank? order item.propKind ↔
          height last.1 = height (rank? order item.propKind) :=
        ⟨congrArg height, height_injective⟩
      simp [same]

theorem enterGroup_of_late {last : Option Nat} {kind : PropKind} (coherent : Coherent options s)
    (group : s.lastGroup = some (last, kind)) (drops : rankOf options item < height last) :
    enterGroup options s item = .error (RuleName.jsxSortProps.warning item.span
      (item.propKind.text ++ " properties should come before " ++ kind.text ++ " properties")) := by
  unfold enterGroup
  cases set : options.order with
  | none =>
    rw [coherent.ungrouped set] at group
    cases group
  | some order =>
    rw [rankOf_of_order set] at drops
    dsimp only
    rw [isGroupedLate_eq_some_iff.mpr ⟨last, group, drops⟩]

theorem step_of_admits (coherent : Coherent options s) (admits : Admits options s item) :
    step options s item = .ok (next options s item) := by
  obtain ⟨inPlace, sorted⟩ := admits
  have group := enterGroup_of_not_late coherent inPlace
  cases item with
  | spread => rw [step, group]; rfl
  | named a =>
    have inOrder : ((grouped options s (.named a)).lastKey.any (sortKey options a.name < ·)) = false := by
      rw [Option.any_eq_false]
      intro key held
      exact decide_eq_false (not_lt.mpr (sorted a rfl key held))
    rw [step, group]
    change enterName options (grouped options s (.named a)) (.named a) = _
    rw [enterName, inOrder]
    rfl

/-- What is said of an item that may not follow: its rank is below that of the last group, or it is
not and the key of the item is below that of the group. -/
theorem step_of_not_admits (coherent : Coherent options s) (refused : ¬ Admits options s item) :
    (∃ last kind, s.lastGroup = some (last, kind) ∧ rankOf options item < height last ∧
      step options s item = .error (RuleName.jsxSortProps.warning item.span
        (item.propKind.text ++ " properties should come before " ++ kind.text ++ " properties"))) ∨
    ((∀ group ∈ s.lastGroup, height group.1 ≤ rankOf options item) ∧ ∃ a, item = .named a ∧
      step options s item = .error (RuleName.jsxSortProps.warning a.nameSpan
        ("The key '" ++ a.name ++ "' is not sorted alphabetically"))) := by
  by_cases inPlace : ∀ group ∈ s.lastGroup, height group.1 ≤ rankOf options item
  · right
    refine ⟨inPlace, ?_⟩
    have group := enterGroup_of_not_late coherent inPlace
    cases item with
    | spread => exact absurd ⟨inPlace, nofun⟩ refused
    | named a =>
      refine ⟨a, rfl, ?_⟩
      have late : ((grouped options s (.named a)).lastKey.any (sortKey options a.name < ·)) = true := by
        by_contra inOrder
        refine refused ⟨inPlace, fun b named key held => ?_⟩
        cases named
        rw [Bool.not_eq_true, Option.any_eq_false] at inOrder
        exact not_lt.mp (of_decide_eq_false (inOrder key held))
      rw [step, group]
      change enterName options (grouped options s (.named a)) (.named a) = _
      rw [enterName, late]
      rfl
  · left
    push Not at inPlace
    obtain ⟨⟨last, kind⟩, group, drops⟩ := inPlace
    refine ⟨last, kind, group, drops, ?_⟩
    rw [step, enterGroup_of_late coherent group drops]
    rfl

theorem next_coherent (options : SortPropsOptions) (s : State) (item : AttributeItem) :
    Coherent options (next options s item) := by
  constructor
  · intro unset
    cases item <;> simp [next, grouped, unset]
  · intro set ungrouped
    cases item <;> simp [next, grouped, set] at ungrouped

/-! ### A state stands for the items in front -/

section Behind

variable {i j : AttributeItem}

theorem mem_keyInGroup {key : String} : key ∈ keyInGroup options s item ↔
    (∀ group ∈ s.lastGroup, height group.1 = rankOf options item) ∧ key ∈ s.lastKey := by
  unfold keyInGroup
  split
  · rename_i sameGroup
    exact (and_iff_right sameGroup).symm
  · rename_i otherGroup
    exact iff_of_false nofun fun held => otherGroup held.1

theorem lastGroup_next : (next options s i).lastGroup =
    options.order.map fun order => (rank? order i.propKind, i.propKind) := by
  cases i <;> rfl

theorem rankOf_of_unset (unset : options.order = none) : rankOf options i = ⊤ := by
  rw [rankOf, unset]
  rfl

/-- The group that an item leaves is its own, and there is one group when no order is set. -/
theorem group_next (p : WithTop Nat → Prop) (one : options.order = none → p ⊤) :
    (∀ group ∈ (next options s i).lastGroup, p (height group.1)) ↔ p (rankOf options i) := by
  rw [lastGroup_next]
  cases set : options.order with
  | none =>
    rw [rankOf_of_unset set]
    exact iff_of_true nofun (one set)
  | some order =>
    rw [rankOf_of_order set]
    simp

theorem admits_next_iff : Admits options (next options s i) j ↔
    rankOf options i ≤ rankOf options j ∧ ∀ b ∈ j.attribute?, rankOf options i = rankOf options j →
      ∀ key ∈ (next options s i).lastKey, key ≤ sortKey options b.name := by
  have below := group_next (s := s) (i := i) (· ≤ rankOf options j) fun unset =>
    (rankOf_of_unset unset).ge
  have same := group_next (s := s) (i := i) (· = rankOf options j) fun unset =>
    (rankOf_of_unset unset).symm
  unfold Admits
  simp only [mem_keyInGroup, below, same, and_imp]
  exact and_congr_right fun _ => forall₂_congr fun _ _ =>
    ⟨fun each equal key held => each key equal held, fun each key equal held => each equal key held⟩

/-- A key that a later item is compared with is one that the item in front of it was, in its group. -/
theorem keyInGroup_of_le {key : String} (coherent : Coherent options s)
    (inPlace : ∀ group ∈ s.lastGroup, height group.1 ≤ rankOf options i)
    (order : rankOf options i ≤ rankOf options j) (held : key ∈ keyInGroup options s j) :
    rankOf options i = rankOf options j ∧ key ∈ keyInGroup options s i := by
  obtain ⟨sameGroup, kept⟩ := mem_keyInGroup.mp held
  have equal : rankOf options i = rankOf options j := by
    cases group : s.lastGroup with
    | some last =>
      have low := inPlace last group
      rw [sameGroup last group] at low
      exact le_antisymm order low
    | none =>
      by_cases unset : options.order = none
      · rw [rankOf_of_unset unset, rankOf_of_unset unset]
      · rw [coherent.keyless unset group] at kept
        cases kept
  refine ⟨equal, mem_keyInGroup.mpr ⟨?_, kept⟩⟩
  rwa [equal]

/-- What may follow an item is what may follow the items in front of it and is in order with it. -/
theorem admits_next (coherent : Coherent options s) (admits : Admits options s i) :
    Admits options (next options s i) j ↔ Admits options s j ∧ InOrder options i j := by
  obtain ⟨inPlace, sorted⟩ := admits
  rw [admits_next_iff]
  constructor
  · rintro ⟨order, later⟩
    have low : ∀ group ∈ s.lastGroup, height group.1 ≤ rankOf options j :=
      fun group left => (inPlace group left).trans order
    refine ⟨⟨low, fun b named key held => ?_⟩, order, fun a isA b named equal => ?_⟩
    · obtain ⟨equal, held⟩ := keyInGroup_of_le coherent inPlace order held
      cases i with
      | spread => exact later b named equal key held
      | named a => exact (sorted a rfl key held).trans (later b named equal _ rfl)
    · cases i with
      | spread => cases isA
      | named a' =>
        cases isA
        exact Source.bytes_le_iff.mpr (later b named equal _ rfl)
  · rintro ⟨⟨_, later⟩, order, beside⟩
    refine ⟨order, fun b named equal key held => ?_⟩
    cases i with
    | spread =>
      have sameGroup := (mem_keyInGroup.mp held).1
      rw [equal] at sameGroup
      exact later b named key (mem_keyInGroup.mpr ⟨sameGroup, (mem_keyInGroup.mp held).2⟩)
    | named a =>
      cases held
      exact Source.bytes_le_iff.mp (beside a rfl b named equal)

end Behind

/-! ### All items -/

/-- Items are read to the end exactly when each may follow the items in front. -/
theorem foldlM_ok_iff (coherent : Coherent options s) {items : List AttributeItem} :
    (∃ last, items.foldlM (step options) s = .ok last) ↔
      (∀ item ∈ items, Admits options s item) ∧ Sorted options items := by
  -- Each item leaves another state. That this one admits the rest says that the item is in order with it.
  induction items generalizing s with
  | nil => exact iff_of_true ⟨s, rfl⟩ ⟨nofun, List.Pairwise.nil⟩
  | cons item items ih =>
    rw [List.foldlM_cons, List.forall_mem_cons, Sorted, List.pairwise_cons]
    by_cases admits : Admits options s item
    · have rest := ih (next_coherent options s item)
      rw [step_of_admits coherent admits]
      refine rest.trans ?_
      simp only [admits_next coherent admits, forall_and, admits, true_and]
      tauto
    · refine iff_of_false ?_ fun all => admits all.1.1
      rintro ⟨last, read⟩
      rcases step_of_not_admits coherent admits with ⟨_, _, _, _, stuck⟩ | ⟨_, _, _, stuck⟩ <;>
        rw [stuck] at read <;> cases read

theorem firstFailure_eq (items : List AttributeItem) :
    firstFailure options s items =
      match items.foldlM (step options) s with
      | .error failure => some failure
      | .ok _ => none := by
  induction items generalizing s with
  | nil => rfl
  | cons item items ih =>
    rw [firstFailure, List.foldlM_cons, ← step]
    cases read : step options s item with
    | error failure => rfl
    | ok next => exact ih

theorem step_eq_ok {t : State} (coherent : Coherent options s) (read : step options s item = .ok t) :
    t = next options s item := by
  by_cases admits : Admits options s item
  · exact Except.ok.inj (read.symm.trans (step_of_admits coherent admits))
  · rcases step_of_not_admits coherent admits with ⟨_, _, _, _, stuck⟩ | ⟨_, _, _, stuck⟩ <;>
      rw [stuck] at read <;> cases read

theorem foldlM_concat (items : List AttributeItem) (item : AttributeItem) :
    (items ++ [item]).foldlM (step options) s =
      items.foldlM (step options) s >>= fun t => step options t item := by
  simp

theorem foldlM_coherent {t : State} (coherent : Coherent options s) {items : List AttributeItem}
    (read : items.foldlM (step options) s = .ok t) : Coherent options t := by
  induction items generalizing s with
  | nil =>
    cases read
    exact coherent
  | cons item items ih =>
    rw [List.foldlM_cons] at read
    cases first : step options s item with
    | error failure =>
      rw [first] at read
      cases read
    | ok middle =>
      rw [first] at read
      refine ih ?_ read
      rw [step_eq_ok coherent first]
      exact next_coherent options s item

/-- A reading that fails does so at an item behind others that were read. -/
theorem exists_of_foldlM_error {items : List AttributeItem} {failure : Diagnostic}
    (failed : items.foldlM (step options) s = .error failure) :
    ∃ before item after t, items = before ++ item :: after ∧
      before.foldlM (step options) s = .ok t ∧ step options t item = .error failure := by
  induction items generalizing s with
  | nil => cases failed
  | cons item items ih =>
    rw [List.foldlM_cons] at failed
    cases first : step options s item with
    | error early =>
      rw [first] at failed
      cases failed
      exact ⟨[], item, items, s, rfl, rfl, first⟩
    | ok middle =>
      rw [first] at failed
      obtain ⟨before, item', after, t, shape, read, stuck⟩ := ih failed
      refine ⟨item :: before, item', after, t, by rw [shape]; rfl, ?_, stuck⟩
      rw [List.foldlM_cons, first]
      exact read

/-- What is said of an item behind a last one is a fault of the two. -/
theorem isFault_of_step {last : AttributeItem} {failure : Diagnostic}
    (stuck : step options (next options s last) item = .error failure) :
    IsFault options last item failure := by
  have coherent := next_coherent options s last
  have refused : ¬ Admits options (next options s last) item := fun admits => by
    rw [step_of_admits coherent admits] at stuck
    cases stuck
  rcases step_of_not_admits coherent refused with
    ⟨rank, kind, group, drops, told⟩ | ⟨inPlace, a, named, told⟩
  · obtain rfl := Except.error.inj (stuck.symm.trans told)
    rw [lastGroup_next, Option.map_eq_some_iff] at group
    obtain ⟨order, set, same⟩ := group
    cases same
    rw [← rankOf_of_order set] at drops
    exact .rankDrops drops
  · obtain rfl := Except.error.inj (stuck.symm.trans told)
    refine .nameUnsorted ?_ named
    exact (group_next (· ≤ rankOf options item) fun unset => (rankOf_of_unset unset).ge).mp inPlace

theorem coherent_start (options : SortPropsOptions) : Coherent options {} := ⟨fun _ => rfl, fun _ _ => rfl⟩

theorem foldlM_start_ok_iff {items : List AttributeItem} :
    (∃ last, items.foldlM (step options) {} = .ok last) ↔ Sorted options items := by
  refine (foldlM_ok_iff (coherent_start options)).trans (and_iff_right ?_)
  intro item _
  refine ⟨nofun, fun a _ key held => ?_⟩
  cases (mem_keyInGroup.mp held).2

end SortProps

open SortProps

/-- For every opening tag and all options, nothing is reported exactly when ranks do not decrease along
the items and the keys of attributes of one rank do not either, for any two of them. Otherwise one
diagnostic is made, for the first item up to which this fails: at the item when its rank is below that
of the item in front, and else at the name. -/
theorem sortProps_reports_first (options : SortPropsOptions) (o : Opening) :
    (sortProps options o = [] ↔ Sorted options o.items) ∧
      (¬ Sorted options o.items →
        ∃ before last item after, o.items = before ++ last :: item :: after ∧
          Sorted options (before ++ [last]) ∧ ¬ Sorted options (before ++ [last, item]) ∧
          ∃ d, IsFault options last item d ∧ sortProps options o = [d]) := by
  rw [← foldlM_start_ok_iff, sortProps, firstFailure_eq]
  cases whole : o.items.foldlM (step options) {} with
  | ok last => exact ⟨iff_of_true rfl ⟨last, rfl⟩, fun refused => absurd ⟨last, rfl⟩ refused⟩
  | error failure =>
    refine ⟨iff_of_false (List.cons_ne_nil _ _) nofun, fun _ => ?_⟩
    obtain ⟨front, item, after, t, shape, read, stuck⟩ := exists_of_foldlM_error whole
    have longer : ¬ Sorted options (front ++ [item]) := by
      rintro sorted
      obtain ⟨u, accepted⟩ := foldlM_start_ok_iff.mpr sorted
      rw [foldlM_concat, read] at accepted
      cases stuck.symm.trans accepted
    -- One item alone is in order, so another stands in front of the one that fails.
    rcases List.eq_nil_or_concat' front with rfl | ⟨before, last, rfl⟩
    · exact absurd (List.pairwise_singleton _ item) longer
    · have inOrder := foldlM_start_ok_iff.mp ⟨t, read⟩
      rw [foldlM_concat] at read
      obtain ⟨u, earlier, atLast⟩ : ∃ u, before.foldlM (step options) {} = .ok u ∧
          step options u last = .ok t := by
        cases earlier : before.foldlM (step options) {} with
        | error early => rw [earlier] at read; cases read
        | ok u => rw [earlier] at read; exact ⟨u, rfl, read⟩
      obtain rfl := step_eq_ok (foldlM_coherent (coherent_start options) earlier) atLast
      rw [List.append_assoc] at longer shape
      exact ⟨before, last, item, after, shape, inOrder, longer, failure, isFault_of_step stuck, rfl⟩

/-- `<a z {...d} c="" B="" />`, where the attributes without a value come first. -/
def spreadInside : Opening where
  span := ⟨0, 23⟩
  name := .mk (.jsxName "a") ⟨1, 2⟩ []
  items := [
    .named ⟨⟨3, 4⟩, "z", ⟨3, 4⟩, none⟩,
    .spread ⟨5, 11⟩ (.mk (.expr (.identifier "d")) ⟨9, 10⟩ []),
    .named ⟨⟨12, 16⟩, "c", ⟨12, 13⟩, some (.mk (.exprPart (.string "")) ⟨14, 16⟩ [])⟩,
    .named ⟨⟨17, 21⟩, "B", ⟨17, 18⟩, some (.mk (.exprPart (.string "")) ⟨19, 21⟩ [])⟩]

theorem sortProps_reports_first_of_spreadInside :
    let options : SortPropsOptions := ⟨true, some [.shorthand]⟩
    ¬ Sorted options spreadInside.items ∧
      ∃ before last item after, spreadInside.items = before ++ last :: item :: after ∧
        Sorted options (before ++ [last]) ∧ ¬ Sorted options (before ++ [last, item]) ∧
        ∃ d, IsFault options last item d ∧ sortProps options spreadInside = [d] := by
  intro options
  obtain ⟨silent, first⟩ := sortProps_reports_first options spreadInside
  have unsorted : ¬ Sorted options spreadInside.items := silent.not.mp (by decide +kernel)
  exact ⟨unsorted, first unsorted⟩

end JsxCheck.Rule
