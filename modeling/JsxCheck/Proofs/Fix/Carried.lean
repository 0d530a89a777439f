import JsxCheck.Proofs.Fix.Text
import JsxCheck.Proofs.Source.Comments

/-!
Spans that are carried along when a fix is made.

What is in front of a fix stays, and what is behind it moves by as much as the text grows or shrinks.
Comments under a fix that writes them side by side are then found there. So the fix leaves the comments
of the text as they were, in order and with their texts (`Made.slice?_carryComments`).
-/
namespace JsxCheck

/-- Spans as wide as those given, side by side from an offset on. -/
def closedUp : (offset : Nat) → List Span → List Span
  | _, [] => []
  | offset, c :: spans => ⟨offset, offset + c.width⟩ :: closedUp (offset + c.width) spans

section ClosedUp

variable {spans : List Span} {offset : Nat}

theorem within_of_mem_closedUp {c : Span} (member : c ∈ closedUp offset spans) :
    offset ≤ c.start ∧ c.stop ≤ offset + (spans.map Span.width).sum := by
  induction spans generalizing offset with
  | nil => cases member
  | cons d spans ih =>
    rw [List.map_cons, List.sum_cons]
    rcases List.mem_cons.mp member with rfl | later
    · exact ⟨Nat.le_refl _, by dsimp only; omega⟩
    · obtain ⟨low, high⟩ := ih later
      exact ⟨by omega, by omega⟩

theorem closedUp_follow : (closedUp offset spans).Pairwise fun a b => a.stop ≤ b.start := by
  induction spans generalizing offset with
  | nil => exact List.Pairwise.nil
  | cons c spans ih =>
    exact List.pairwise_cons.mpr ⟨fun d later => (within_of_mem_closedUp later).1, ih⟩

theorem closedUp_filled (filled : ∀ c ∈ spans, c.start < c.stop) :
    ∀ c ∈ closedUp offset spans, c.start < c.stop := by
  induction spans generalizing offset with
  | nil => exact nofun
  | cons c spans ih =>
    obtain ⟨first, filled⟩ := List.forall_mem_cons.mp filled
    refine List.forall_mem_cons.mpr ⟨?_, ih filled⟩
    exact Nat.lt_add_of_pos_right (Nat.sub_pos_of_lt first)

/-- Nothing is left out between spans that stand side by side. -/
theorem exists_mem_closedUp {i : Nat} (low : offset ≤ i)
    (high : i < offset + (spans.map Span.width).sum) :
    ∃ c ∈ closedUp offset spans, c.start ≤ i ∧ i < c.stop := by
  induction spans generalizing offset with
  | nil =>
    rw [List.map_nil, List.sum_nil] at high
    omega
  | cons c spans ih =>
    rw [List.map_cons, List.sum_cons] at high
    by_cases here : i < offset + c.width
    · exact ⟨_, List.mem_cons_self, low, here⟩
    · obtain ⟨d, later, around⟩ := ih (Nat.not_lt.mp here) (by omega)
      exact ⟨d, List.mem_cons_of_mem _ later, around⟩

variable {s t : Source}

theorem utf8Len_slice {c : Span} (sliceable : s.Sliceable c) :
    String.utf8Len (s.slice c).toList = c.width := by
  obtain ⟨l, m, r, _, start, stop, slice⟩ := sliceable.exists_split
  rw [Source.slice, slice, Option.getD_some, String.toList_ofList, Span.width]
  omega

/-- The texts of spans, side by side in another text, are found there. -/
theorem slice?_closedUp {l r : List Char} (sliceable : ∀ c ∈ spans, s.Sliceable c)
    (split : t.text.toList = l ++ (spans.flatMap fun c => (s.slice c).toList) ++ r) :
    (closedUp (String.utf8Len l) spans).map (fun c => t.slice? c.start c.stop) =
      spans.map fun c => s.slice? c.start c.stop := by
  induction spans generalizing l with
  | nil => rfl
  | cons c spans ih =>
    obtain ⟨first, sliceable⟩ := List.forall_mem_cons.mp sliceable
    obtain ⟨text, sliced⟩ := Option.isSome_iff_exists.mp ((s.sliceable_iff c).mp first)
    have here : t.text.toList = l ++ (s.slice c).toList ++
        ((spans.flatMap fun c => (s.slice c).toList) ++ r) := by
      rw [split, List.flatMap_cons]
      simp only [List.append_assoc]
    have found := Source.slice?_of_split here
    have rest := ih (l := l ++ (s.slice c).toList) sliceable (by rw [here, List.append_assoc _ _ r])
    rw [utf8Len_slice first, String.ofList_toList, Source.slice, sliced, Option.getD_some] at found
    rw [String.utf8Len_append, utf8Len_slice first] at rest
    rw [closedUp, List.map_cons, List.map_cons, rest, sliced]
    exact congrArg (· :: _) found

end ClosedUp

namespace Fix

/-- Where a span beside a fix is once the fix is made. -/
def carry (f : Fix) (span : Span) : Span :=
  if f.span.stop ≤ span.start then
    ⟨span.start + f.bytes.length - f.width, span.stop + f.bytes.length - f.width⟩
  else span

/-- Comments once a fix is made that writes those under it side by side. -/
def carryComments (f : Fix) (comments : List Span) : List Span :=
  comments.filter (fun c => decide (c.stop ≤ f.span.start)) ++
    (closedUp f.span.start (commentsWithin comments f.span.start f.span.stop) ++
      (comments.filter fun c => decide (f.span.stop ≤ c.start)).map f.carry)

/-- No span reaches across an end of a fix. -/
def Parts (f : Fix) (spans : List Span) : Prop :=
  ∀ c ∈ spans, c.stop ≤ f.span.start ∨ (f.span.start ≤ c.start ∧ c.stop ≤ f.span.stop) ∨
    f.span.stop ≤ c.start

/-- What a fix writes begins with the comments under it, side by side. -/
def Rewrites (f : Fix) (s : Source) (comments : List Span) : Prop :=
  ∃ rest, f.replacement =
    String.join ((commentsWithin comments f.span.start f.span.stop).map s.slice) ++ rest

variable {f : Fix} {s t : Source} {comments : List Span}

theorem carry_of_le {span : Span} (after : f.span.stop ≤ span.start) : f.carry span =
    ⟨span.start + f.bytes.length - f.width, span.stop + f.bytes.length - f.width⟩ :=
  if_pos after

theorem carry_of_lt {span : Span} (before : span.start < f.span.stop) : f.carry span = span :=
  if_neg (Nat.not_le.mpr before)

theorem mem_carryComments_iff {c : Span} : c ∈ f.carryComments comments ↔
    (c ∈ comments ∧ c.stop ≤ f.span.start) ∨
      c ∈ closedUp f.span.start (commentsWithin comments f.span.start f.span.stop) ∨
        ∃ d, (d ∈ comments ∧ f.span.stop ≤ d.start) ∧ f.carry d = c := by
  simp only [carryComments, List.mem_append, List.mem_filter, List.mem_map, decide_eq_true_eq]

theorem utf8Len_join {spans : List Span} (sliceable : ∀ c ∈ spans, s.Sliceable c) :
    String.utf8Len (String.join (spans.map s.slice)).toList = (spans.map Span.width).sum := by
  rw [String.toList_join]
  induction spans with
  | nil => rfl
  | cons c spans ih =>
    obtain ⟨first, sliceable⟩ := List.forall_mem_cons.mp sliceable
    rw [List.map_cons, List.flatMap_cons, String.utf8Len_append, ih sliceable, utf8Len_slice first,
      List.map_cons, List.sum_cons]

section Arranged

variable (arranged : s.Arranged comments)

include arranged

theorem sum_width_le_of_rewrites (rewrites : f.Rewrites s comments) :
    ((commentsWithin comments f.span.start f.span.stop).map Span.width).sum ≤ f.bytes.length := by
  obtain ⟨rest, text⟩ := rewrites
  rw [f.length_bytes, text, String.toList_append, String.utf8Len_append, utf8Len_join]
  · exact Nat.le_add_right _ _
  · exact fun c member => arranged.sliceable c (arranged.mem_commentsWithin.mp member).1

/-- The comments in front of a fix, those under it and those behind it are all comments. -/
theorem comments_eq_of_parts (order : f.span.start ≤ f.span.stop) (parts : f.Parts comments) :
    comments.filter (fun c => decide (c.stop ≤ f.span.start)) ++
      (commentsWithin comments f.span.start f.span.stop ++
        comments.filter fun c => decide (f.span.stop ≤ c.start)) = comments := by
  have down : ∀ i, comments.Pairwise fun a b =>
      decide (b.stop ≤ i) = true → decide (a.stop ≤ i) = true := by
    refine fun i => arranged.follow.imp_of_mem fun {a b} _ second before => ?_
    have filled := arranged.filled b second
    simp only [decide_eq_true_eq]
    omega
  have under : commentsWithin comments f.span.start f.span.stop =
      (comments.filter fun c => !decide (c.stop ≤ f.span.start)).filter
        fun c => decide (c.stop ≤ f.span.stop) := by
    rw [commentsWithin_eq_filter arranged.follow fun c listed => (arranged.sliceable c listed).ordered,
      List.filter_filter]
    refine List.filter_congr fun c listed => Bool.eq_iff_iff.mpr ?_
    have filled := arranged.filled c listed
    have part := parts c listed
    simp only [Bool.and_eq_true, decide_eq_true_eq, Bool.not_eq_true', decide_eq_false_iff_not]
    omega
  have behind : (comments.filter fun c => decide (f.span.stop ≤ c.start)) =
      (comments.filter fun c => !decide (c.stop ≤ f.span.start)).filter
        fun c => !decide (c.stop ≤ f.span.stop) := by
    rw [List.filter_filter]
    refine List.filter_congr fun c listed => Bool.eq_iff_iff.mpr ?_
    have filled := arranged.filled c listed
    have part := parts c listed
    simp only [Bool.and_eq_true, decide_eq_true_eq, Bool.not_eq_true', decide_eq_false_iff_not]
    omega
  rw [under, behind, filter_append_filter_not ((down _).sublist List.filter_sublist),
    filter_append_filter_not (down _)]

/-- The comments keep their texts. -/
theorem Made.slice?_carryComments (made : f.Made s t) (order : f.span.start ≤ f.span.stop)
    (parts : f.Parts comments) (rewrites : f.Rewrites s comments) :
    (f.carryComments comments).map (fun c => t.slice? c.start c.stop) =
      comments.map fun c => s.slice? c.start c.stop := by
  have front : ∀ c ∈ comments.filter (fun c => decide (c.stop ≤ f.span.start)),
      t.slice? c.start c.stop = s.slice? c.start c.stop := by
    intro c member
    obtain ⟨listed, before⟩ := List.mem_filter.mp member
    exact made.slice?_inFront (arranged.sliceable c listed) (of_decide_eq_true before)
  have behind : ∀ c ∈ comments.filter (fun c => decide (f.span.stop ≤ c.start)),
      t.slice? (f.carry c).start (f.carry c).stop = s.slice? c.start c.stop := by
    intro c member
    obtain ⟨listed, after⟩ := List.mem_filter.mp member
    rw [carry_of_le (of_decide_eq_true after)]
    exact made.slice?_behind (arranged.sliceable c listed) (of_decide_eq_true after)
  have under : (closedUp f.span.start (commentsWithin comments f.span.start f.span.stop)).map
        (fun c => t.slice? c.start c.stop) =
      (commentsWithin comments f.span.start f.span.stop).map fun c => s.slice? c.start c.stop := by
    obtain ⟨l, _, r, _, text, start, _⟩ := made
    obtain ⟨rest, written⟩ := rewrites
    rw [← start]
    rw [← start] at written
    refine slice?_closedUp (r := rest.toList ++ r)
      (fun c member => arranged.sliceable c (arranged.mem_commentsWithin.mp member).1) ?_
    rw [text, written, String.toList_append, String.toList_join, List.flatMap_map]
    simp only [List.append_assoc]
  conv_rhs => rw [← comments_eq_of_parts arranged order parts]
  rw [carryComments, List.map_append, List.map_append, List.map_append, List.map_append, List.map_map,
    under, List.map_congr_left front]
  congr 2
  exact List.map_congr_left behind

theorem Made.arranged_carryComments (made : f.Made s t) (order : f.span.start ≤ f.span.stop)
    (parts : f.Parts comments) (rewrites : f.Rewrites s comments) :
    t.Arranged (f.carryComments comments) := by
  have room := sum_width_le_of_rewrites arranged rewrites
  have front : ∀ c ∈ comments.filter (fun c => decide (c.stop ≤ f.span.start)),
      c ∈ comments ∧ c.stop ≤ f.span.start := by
    simp only [List.mem_filter, decide_eq_true_eq, imp_self, implies_true]
  have behind : ∀ c ∈ (comments.filter fun c => decide (f.span.stop ≤ c.start)).map f.carry,
      f.span.start + f.bytes.length ≤ c.start ∧ c.start < c.stop := by
    intro c member
    obtain ⟨d, kept, rfl⟩ := List.mem_map.mp member
    obtain ⟨listed, after⟩ := List.mem_filter.mp kept
    have after := of_decide_eq_true after
    have filled := arranged.filled d listed
    rw [carry_of_le after, width, Span.width]
    dsimp only
    omega
  refine ⟨?follow, ?sliceable, ?filled⟩
  case follow =>
    refine List.pairwise_append.mpr ⟨arranged.follow.sublist List.filter_sublist,
      List.pairwise_append.mpr ⟨closedUp_follow, ?_, ?_⟩, ?_⟩
    · refine List.pairwise_map.mpr ((arranged.follow.sublist List.filter_sublist).imp_of_mem ?_)
      intro c d first second before
      rw [carry_of_le (of_decide_eq_true (List.mem_filter.mp first).2),
        carry_of_le (of_decide_eq_true (List.mem_filter.mp second).2)]
      dsimp only
      omega
    · intro c under d later
      have high := (within_of_mem_closedUp under).2
      have low := (behind d later).1
      omega
    · intro c first d second
      have high := (front c first).2
      rcases List.mem_append.mp second with under | later
      · exact Nat.le_trans high (within_of_mem_closedUp under).1
      · have low := (behind d later).1
        omega
  case sliceable =>
    intro c member
    have text := List.mem_map_of_mem (f := fun c => t.slice? c.start c.stop) member
    rw [made.slice?_carryComments arranged order parts rewrites] at text
    obtain ⟨d, listed, same⟩ := List.mem_map.mp text
    rw [Source.sliceable_iff, ← same, ← Source.sliceable_iff]
    exact arranged.sliceable d listed
  case filled =>
    intro c member
    rcases List.mem_append.mp member with first | member
    · exact arranged.filled c (front c first).1
    · rcases List.mem_append.mp member with under | later
      · refine closedUp_filled (fun d inside => ?_) c under
        exact arranged.filled d (arranged.mem_commentsWithin.mp inside).1
      · exact (behind c later).2

end Arranged

/-! ### Offsets -/

/-- An offset that is not under a fix is at another one once the fix is made. -/
def CarriesTo (f : Fix) (i j : Nat) : Prop :=
  (i < f.span.start ∧ j = i) ∨ (f.span.stop ≤ i ∧ j = i + f.bytes.length - f.width)

section Offsets

variable {i j : Nat} (order : f.span.start ≤ f.span.stop)

theorem Made.byte?_of_carriesTo (made : f.Made s t) (reach : f.CarriesTo i j) :
    t.byte? j = s.byte? i := by
  rcases reach with ⟨before, rfl⟩ | ⟨after, rfl⟩
  · exact made.byte?_inFront before
  · exact made.byte?_behind after

include order

/-- Every offset is under what a fix writes or comes from one beside the fix. -/
theorem exists_carriesTo (j : Nat) :
    (f.span.start ≤ j ∧ j < f.span.start + f.bytes.length) ∨ ∃ i, f.CarriesTo i j := by
  have width : f.width = f.span.stop - f.span.start := rfl
  by_cases before : j < f.span.start
  · exact Or.inr ⟨j, Or.inl ⟨before, rfl⟩⟩
  · by_cases under : j < f.span.start + f.bytes.length
    · exact Or.inl ⟨Nat.not_lt.mp before, under⟩
    · exact Or.inr ⟨j + f.width - f.bytes.length, Or.inr ⟨by omega, by omega⟩⟩

theorem lt_of_carriesTo {i' j' : Nat} (reach : f.CarriesTo i j) (reach' : f.CarriesTo i' j')
    (less : j < j') : i < i' := by
  have width : f.width = f.span.stop - f.span.start := rfl
  rcases reach with ⟨before, rfl⟩ | ⟨after, rfl⟩
  · rcases reach' with ⟨before', rfl⟩ | ⟨after', rfl⟩
    · exact less
    · omega
  · rcases reach' with ⟨before', rfl⟩ | ⟨after', rfl⟩
    · omega
    · omega

/-- An offset is in a comment once a fix is made just when it was before. -/
theorem exists_mem_carryComments_iff (arranged : s.Arranged comments) (parts : f.Parts comments)
    (rewrites : f.Rewrites s comments) (reach : f.CarriesTo i j) :
    (∃ c ∈ f.carryComments comments, c.start ≤ j ∧ j < c.stop) ↔
      ∃ c ∈ comments, c.start ≤ i ∧ i < c.stop := by
  have room := sum_width_le_of_rewrites arranged rewrites
  have width : f.width = f.span.stop - f.span.start := rfl
  constructor
  · rintro ⟨c, member, around⟩
    rcases mem_carryComments_iff.mp member with ⟨listed, before⟩ | under | ⟨d, ⟨listed, after⟩, rfl⟩
    · exact ⟨c, listed, by rcases reach with ⟨_, rfl⟩ | ⟨_, rfl⟩ <;> omega⟩
    · have within := within_of_mem_closedUp under
      rcases reach with ⟨_, rfl⟩ | ⟨_, rfl⟩ <;> omega
    · rw [carry_of_le after] at around
      dsimp only at around
      exact ⟨d, listed, by rcases reach with ⟨_, rfl⟩ | ⟨_, rfl⟩ <;> omega⟩
  · rintro ⟨c, listed, around⟩
    rcases parts c listed with before | under | after
    · refine ⟨c, mem_carryComments_iff.mpr (Or.inl ⟨listed, before⟩), ?_⟩
      rcases reach with ⟨_, rfl⟩ | ⟨_, rfl⟩ <;> omega
    · rcases reach with ⟨_, rfl⟩ | ⟨_, rfl⟩ <;> omega
    · refine ⟨f.carry c, mem_carryComments_iff.mpr (Or.inr (Or.inr ⟨c, ⟨listed, after⟩, rfl⟩)), ?_⟩
      rw [carry_of_le after]
      dsimp only
      rcases reach with ⟨_, rfl⟩ | ⟨_, rfl⟩ <;> omega

/-- The `=` that a search finds beside a fix is found again, where the fix writes none. -/
theorem Made.findToken_equals (made : f.Made s t) (arranged : s.Arranged comments)
    (parts : f.Parts comments) (rewrites : f.Rewrites s comments) {start stop : Nat}
    (found : findToken s comments start stop "=" = some i)
    (inside : start ≤ f.span.start ∧ f.span.stop ≤ stop) (reach : f.CarriesTo i j)
    (quiet : ∀ k, f.span.start ≤ k → k < f.span.start + f.bytes.length → t.byte? k = some 61 →
      ∃ c ∈ f.carryComments comments, c.start ≤ k ∧ k < c.stop) :
    findToken t (f.carryComments comments) start (stop + f.bytes.length - f.width) "=" = some j := by
  have width : f.width = f.span.stop - f.span.start := rfl
  have one : ("=" : String).utf8ByteSize = 1 := by decide
  have equals : ∀ (s : Source) k, s.hasAt "=" k = true ↔ s.byte? k = some 61 :=
    fun _ _ => Source.hasAt_iff_byte? one (by decide)
  obtain ⟨range, ⟨low, high⟩, here, outside, earlier⟩ := findToken_eq_some_iff.mp found
  rw [equals] at here
  rw [one] at high
  refine findToken_eq_some_iff.mpr ⟨⟨?_, ?_, ?_⟩, ?_, ?_, fun c member around => ?_, ?_⟩
  · dsimp only
    omega
  · exact made.isBoundary_inFront range.starts inside.1
  · exact made.isBoundary_behind range.stops inside.2
  · rw [one]
    rcases reach with ⟨_, rfl⟩ | ⟨_, rfl⟩ <;> omega
  · rw [equals, made.byte?_of_carriesTo reach]
    exact here
  · obtain ⟨d, listed, around'⟩ :=
      (exists_mem_carryComments_iff order arranged parts rewrites reach).mp ⟨c, member, around⟩
    exact outside d listed around'
  · intro k after before stands
    rw [equals] at stands
    rcases exists_carriesTo order k with ⟨low', high'⟩ | ⟨k', reach'⟩
    · exact quiet k low' high' stands
    · have less := lt_of_carriesTo order reach' reach before
      have low' : start ≤ k' := by rcases reach' with ⟨_, rfl⟩ | ⟨_, rfl⟩ <;> omega
      rw [made.byte?_of_carriesTo reach', ← equals] at stands
      exact (exists_mem_carryComments_iff order arranged parts rewrites reach').mpr
        (earlier k' low' less stands)

end Offsets

end Fix

end JsxCheck
