import JsxCheck.Proofs.Guarded.Fault
import JsxCheck.Proofs.Source.Comments
import JsxCheck.Proofs.Syntax.Formed
import Mathlib.Data.List.TakeWhile
import Mathlib.Data.Nat.Find
import Mathlib.Order.Bounds.Basic

/-!
Gaps and tokens, with every step that may stop.

Comments that do not overlap are no longer together than what they lie in, so their widths can be added
up. A comment that a search runs into ends behind the hit and no later than the search, so the search goes
on from a place further on and comes to an end. Only the empty needle is also found at the end of the
search, from where a comment leads out of the text.
-/
namespace JsxCheck

/-- Spans in order of their starts, none empty and none over another, follow each other. -/
theorem Source.Arranged.of_sorted {s : Source} {spans : List Span}
    (sorted : spans.Pairwise fun a b => a.start ≤ b.start) (apart : spans.Pairwise Span.Apart)
    (filled : ∀ c ∈ spans, c.start < c.stop) (sliceable : ∀ c ∈ spans, s.Sliceable c) :
    s.Arranged spans where
  follow := by
    refine (sorted.and apart).imp_of_mem fun {a b} _ second both => ?_
    obtain ⟨order, beside⟩ := both
    have width := filled b second
    exact beside.resolve_right (by omega)
  sliceable := sliceable
  filled := filled

namespace Guarded

/-! ### Gaps -/

theorem addWidths_ok {spans : List Span} {sum : Nat} (ordered : ∀ c ∈ spans, c.start ≤ c.stop)
    (small : sum + (spans.map Span.width).sum < 2 ^ 32) :
    addWidths sum spans = .ok (sum + (spans.map Span.width).sum) := by
  induction spans generalizing sum with
  | nil => rfl
  | cons c spans ih =>
    rw [List.map_cons, List.sum_cons, ← Nat.add_assoc] at small ⊢
    have first : sum + (c.stop - c.start) < 2 ^ 32 := Nat.lt_of_le_of_lt (Nat.le_add_right _ _) small
    rw [addWidths, List.foldlM_cons, sub_ok (ordered c List.mem_cons_self), ok_bind, add_ok first,
      ok_bind]
    exact ih (fun d later => ordered d (List.mem_cons_of_mem _ later)) small

/-- Spans beside each other are together no longer than what they lie in. -/
theorem sum_width_le {spans : List Span} {low high : Nat} (order : low ≤ high)
    (apart : spans.Pairwise Span.Apart)
    (inside : ∀ c ∈ spans, low ≤ c.start ∧ c.start ≤ c.stop ∧ c.stop ≤ high) :
    (spans.map Span.width).sum ≤ high - low := by
  induction h : spans.length using Nat.strongRecOn generalizing spans low high with
  | ind length ih =>
    cases spans with
    | nil => exact Nat.zero_le _
    | cons c rest =>
      obtain ⟨first, apart⟩ := List.pairwise_cons.mp apart
      obtain ⟨lowC, orderC, highC⟩ := inside c List.mem_cons_self
      -- What is left of the first span and what is right of it.
      let left := rest.filter fun d => d.stop ≤ c.start
      let right := rest.filter fun d => !decide (d.stop ≤ c.start)
      have halves : (left.map Span.width).sum + (right.map Span.width).sum =
          (rest.map Span.width).sum := by
        rw [← List.sum_append, ← List.map_append]
        exact ((List.filter_append_perm _ rest).map Span.width).sum_nat
      have leftSum : (left.map Span.width).sum ≤ c.start - low := by
        refine ih _ (h ▸ Nat.lt_succ_of_le (List.length_filter_le _ _)) lowC (apart.filter _) ?_ rfl
        intro d member
        obtain ⟨listed, before⟩ := List.mem_filter.mp member
        obtain ⟨lowD, orderD, _⟩ := inside d (List.mem_cons_of_mem _ listed)
        exact ⟨lowD, orderD, of_decide_eq_true before⟩
      have rightSum : (right.map Span.width).sum ≤ high - c.stop := by
        refine ih _ (h ▸ Nat.lt_succ_of_le (List.length_filter_le _ _)) highC (apart.filter _) ?_ rfl
        intro d member
        obtain ⟨listed, notBefore⟩ := List.mem_filter.mp member
        obtain ⟨_, orderD, highD⟩ := inside d (List.mem_cons_of_mem _ listed)
        have behind : c.stop ≤ d.start :=
          (first d listed).resolve_right (of_decide_eq_false (by simpa using notBefore))
        exact ⟨behind, orderD, highD⟩
      rw [List.map_cons, List.sum_cons, Span.width]
      omega

theorem stop_le_of_mem_commentsWithin {comments : List Span} {start stop : Nat} {c : Span}
    (member : c ∈ commentsWithin comments start stop) : c.stop ≤ stop := by
  rw [commentsWithin] at member
  have kept := List.mem_takeWhile_imp member
  simpa using kept

theorem whitespaceGap_ok {s : Source} {comments : List Span} {start stop : Nat}
    (small : stop ≤ s.size → stop < 2 ^ 32) (sliceable : ∀ c ∈ comments, s.Sliceable c)
    (apart : comments.Pairwise Span.Apart) :
    whitespaceGap s comments start stop = .ok (JsxCheck.whitespaceGap s comments start stop) := by
  have part : (commentsWithin comments start stop).Sublist comments :=
    (List.takeWhile_sublist _).trans (List.dropWhile_sublist _)
  have within : ∀ c ∈ commentsWithin comments start stop, s.Sliceable c := fun c listed =>
    sliceable c (part.subset listed)
  have short := sum_width_le (Nat.zero_le stop) (apart.sublist part) fun c listed =>
    ⟨Nat.zero_le _, (within c listed).ordered, stop_le_of_mem_commentsWithin listed⟩
  unfold whitespaceGap JsxCheck.whitespaceGap
  split
  · rfl
  · split
    · rfl
    · rename_i sliced
      have whole : s.Sliceable ⟨start, stop⟩ := by
        rw [s.sliceable_iff, Option.isSome_iff_ne_none]
        simpa using sliced
      have bound : stop < 2 ^ 32 := small whole.bounded
      dsimp only
      rw [addWidths_ok (fun c listed => (within c listed).ordered) (by omega), ok_bind,
        sub_ok (by omega), ok_bind, Nat.zero_add, List.sum_eq_foldl]
      split
      · rw [mapM_ok fun c listed => cut_ok (within c listed)]
        rfl
      · rfl

/-- The comments between two offsets are those that lie wholly between them. There is a gap exactly when
a byte there is in none of these, and it keeps their bytes, one comment after the other. -/
theorem whitespaceGap_between {s : Source} {comments : List Span} {start stop : Nat}
    (sorted : comments.Pairwise fun a b => a.start ≤ b.start) (apart : comments.Pairwise Span.Apart)
    (filled : ∀ c ∈ comments, c.start < c.stop) (sliceable : ∀ c ∈ comments, s.Sliceable c)
    (word : stop < 2 ^ 32) :
    commentsWithin comments start stop =
        comments.filter (fun c => decide (start ≤ c.start) && decide (c.stop ≤ stop)) ∧
      whitespaceGap s comments start stop = .ok (JsxCheck.whitespaceGap s comments start stop) ∧
      ((JsxCheck.whitespaceGap s comments start stop).isSome = true ↔
        start < stop ∧ s.Sliceable ⟨start, stop⟩ ∧ ∃ i, start ≤ i ∧ i < stop ∧
          ∀ c ∈ commentsWithin comments start stop, ¬ (c.start ≤ i ∧ i < c.stop)) ∧
      ∀ gap ∈ JsxCheck.whitespaceGap s comments start stop, gap.span = ⟨start, stop⟩ ∧
        (Source.mk gap.comments).bytes = (commentsWithin comments start stop).flatMap fun c =>
          (s.bytes.take c.stop).drop c.start := by
  have arranged : s.Arranged comments := .of_sorted sorted apart filled sliceable
  refine ⟨commentsWithin_eq_filter arranged.follow fun c listed => (sliceable c listed).ordered,
    whitespaceGap_ok (fun _ => word) sliceable apart, ?_, ?_⟩
  · constructor
    · intro found
      obtain ⟨gap, found⟩ := Option.isSome_iff_exists.mp found
      obtain ⟨less, rfl⟩ := whitespaceGap_eq found
      have whole : s.Sliceable ⟨start, stop⟩ := sliceable_of_whitespaceGap found
      obtain ⟨_, i, low, high, free⟩ := (arranged.whitespaceGap_eq_some_iff whole).mp found
      refine ⟨less, whole, i, low, high, fun c member => ?_⟩
      obtain ⟨listed, after, before⟩ := arranged.mem_commentsWithin.mp member
      exact free c listed after before
    · rintro ⟨_, whole, i, low, high, free⟩
      refine Option.isSome_of_mem ((arranged.whitespaceGap_eq_some_iff whole).mpr
        ⟨rfl, i, low, high, fun c listed after before => ?_⟩)
      exact free c (arranged.mem_commentsWithin.mpr ⟨listed, after, before⟩)
  · intro gap found
    obtain ⟨_, rfl⟩ := whitespaceGap_eq found
    have each : ∀ c ∈ commentsWithin comments start stop,
        (s.slice c).toList.flatMap String.utf8EncodeChar = (s.bytes.take c.stop).drop c.start :=
      fun c member => (sliceable c (arranged.mem_commentsWithin.mp member).1).bytes_slice
    refine ⟨rfl, ?_⟩
    rw [Source.bytes, String.toList_join, List.flatMap_map, List.flatMap_assoc]
    exact List.flatMap_congr each

/-- Space in front of a comment and behind it, with a comment on either side. -/
theorem whitespaceGap_between_of_threeComments :
    let s : Source := ⟨"/*a*/ /*b*/ x/*c*/"⟩
    let comments : List Span := [⟨0, 5⟩, ⟨6, 11⟩, ⟨13, 18⟩]
    (comments.Pairwise fun a b => a.start ≤ b.start) ∧ comments.Pairwise Span.Apart ∧
      (∀ c ∈ comments, c.start < c.stop) ∧ (∀ c ∈ comments, s.Sliceable c) ∧ 12 < 2 ^ 32 ∧
      commentsWithin comments 5 12 = [⟨6, 11⟩] ∧
      (∃ gap, whitespaceGap s comments 5 12 = .ok (some gap) ∧ gap.span = ⟨5, 12⟩ ∧
        (Source.mk gap.comments).bytes = (s.bytes.take 11).drop 6) ∧
      whitespaceGap s comments 6 11 = .ok none := by
  intro s comments
  have sorted : comments.Pairwise fun a b => a.start ≤ b.start := by decide
  have apart : comments.Pairwise Span.Apart := by decide
  have filled : ∀ c ∈ comments, c.start < c.stop := by decide
  have cut : ∀ span ∈ (⟨5, 12⟩ :: comments : List Span), s.Sliceable span := by
    simp only [Source.sliceable_iff]
    decide +kernel
  have sliceable : ∀ c ∈ comments, s.Sliceable c := fun c listed =>
    cut c (List.mem_cons_of_mem _ listed)
  obtain ⟨_, wide, isSome, kept⟩ :=
    @whitespaceGap_between s comments 5 12 sorted apart filled sliceable (by decide)
  obtain ⟨_, narrow, isNone, _⟩ :=
    @whitespaceGap_between s comments 6 11 sorted apart filled sliceable (by decide)
  have within : commentsWithin comments 5 12 = [⟨6, 11⟩] := by decide
  obtain ⟨gap, found⟩ := Option.isSome_iff_exists.mp
    (isSome.mpr ⟨by decide, cut _ List.mem_cons_self, 5, by decide, by decide, by decide⟩)
  obtain ⟨span, bytes⟩ := kept gap found
  rw [within, List.flatMap_singleton] at bytes
  refine ⟨sorted, apart, filled, sliceable, by decide, within,
    ⟨gap, by rw [wide, found], span, bytes⟩, ?_⟩
  have closed : JsxCheck.whitespaceGap s comments 6 11 = none := by
    refine Option.not_isSome_iff_eq_none.mp fun found => ?_
    obtain ⟨_, _, i, low, high, free⟩ := isNone.mp found
    exact free ⟨6, 11⟩ (by decide) ⟨low, high⟩
  rw [narrow, closed]

/-! ### Tokens -/

section Part

variable {s part : Source} {needle : String} {start stop : Nat}
  (size : start + part.size = stop) (same : ∀ k < part.size, part.byte? k = s.byte? (start + k))
include same

theorem hasAt_part {k : Nat} (inside : k + needle.utf8ByteSize ≤ part.size) :
    part.hasAt needle k = s.hasAt needle (start + k) := by
  unfold Source.hasAt
  rw [Bool.eq_iff_iff, List.all_eq_true, List.all_eq_true]
  refine forall₂_congr fun j member => ?_
  have short := List.mem_range.mp member
  rw [same (k + j) (by omega), Nat.add_assoc]

theorem findFrom_part {fuel k : Nat} (inside : k + fuel + needle.utf8ByteSize ≤ part.size + 1) :
    part.findFrom needle fuel k = (s.findFrom needle fuel (start + k)).map (· - start) := by
  induction fuel generalizing k with
  | zero => rfl
  | succ fuel ih =>
    rw [Source.findFrom, Source.findFrom, hasAt_part same (by omega), ih (by omega)]
    split
    · rw [Option.map_some, Nat.add_sub_cancel_left]
    · rfl

include size in
/-- A search in a part of a text finds what a search between its ends finds in the text. -/
theorem find?_part :
    part.find? needle 0 part.size = (s.find? needle start stop).map (· - start) := by
  unfold Source.find?
  by_cases fits : needle.utf8ByteSize ≤ part.size
  · rw [if_pos (by omega), if_pos (by omega), findFrom_part same (by omega)]
    congr 2
    omega
  · rw [if_neg (by omega), if_neg (by omega)]
    rfl

end Part

/-- The needle stands at an offset between two others, in no comment. -/
structure TokenAt (s : Source) (comments : List Span) (start stop : Nat) (needle : String) (i : Nat) :
    Prop where
  low : start ≤ i
  high : i + needle.utf8ByteSize ≤ stop
  stands : (Source.mk needle).bytes <+: s.bytes.drop i
  outside : ∀ c ∈ comments, ¬ (c.start ≤ i ∧ i < c.stop)

section Token

variable {s : Source} {comments : List Span} {needle : String} {start stop : Nat}

theorem findToken_eq_some_iff_isLeast {hit : Nat} :
    JsxCheck.findToken s comments start stop needle = some hit ↔
      s.Sliceable ⟨start, stop⟩ ∧ IsLeast {i | TokenAt s comments start stop needle i} hit := by
  rw [findToken_eq_some_iff]
  refine and_congr_right fun _ => ⟨?_, ?_⟩
  · rintro ⟨⟨low, high⟩, here, outside, earlier⟩
    refine ⟨⟨low, high, Source.hasAt_iff_isPrefix.mp here, outside⟩, fun i token => ?_⟩
    by_contra before
    obtain ⟨c, listed, inside⟩ := earlier i token.low (Nat.not_le.mp before)
      (Source.hasAt_iff_isPrefix.mpr token.stands)
    exact token.outside c listed inside
  · rintro ⟨token, least⟩
    refine ⟨⟨token.low, token.high⟩, Source.hasAt_iff_isPrefix.mpr token.stands, token.outside, ?_⟩
    intro i low before here
    by_contra free
    have high := token.high
    have later := least ⟨low, by omega, Source.hasAt_iff_isPrefix.mp here,
      fun c listed inside => free ⟨c, listed, inside⟩⟩
    omega

theorem findToken_eq_none_iff (whole : s.Sliceable ⟨start, stop⟩) :
    JsxCheck.findToken s comments start stop needle = none ↔
      ¬ ∃ i, TokenAt s comments start stop needle i := by
  constructor
  · intro nothing somewhere
    classical
    have found := findToken_eq_some_iff_isLeast.mpr
      ⟨whole, Nat.find_spec somewhere, fun i token => Nat.find_min' somewhere token⟩
    rw [nothing] at found
    cases found
  · intro absent
    refine Option.eq_none_iff_forall_ne_some.mpr fun hit found => ?_
    exact absent ⟨hit, (findToken_eq_some_iff_isLeast.mp found).2.1⟩

theorem findTokenFrom_eq_none {fuel i : Nat} (past : stop < i) :
    findTokenFrom s comments needle stop fuel i = none := by
  refine Option.eq_none_iff_forall_ne_some.mpr fun hit found => ?_
  obtain ⟨low, high, _⟩ := findTokenFrom_spec found
  omega

theorem ne_empty_of_find?_eq_none {i : Nat} (order : i ≤ stop) (absent : s.find? needle i stop = none) :
    needle ≠ "" := by
  rintro rfl
  have here : s.hasAt "" i = true := rfl
  have found := Source.find?_isSome_iff.mpr ⟨i, Nat.le_refl i, order, here⟩
  rw [absent] at found
  cases found

/-- A search in what is left of a range finds what a search up to its end finds in the text. -/
theorem exists_rest {text : String} (sliced : s.slice? start stop = some text) {i : Nat}
    (inside : start + i ≤ stop) (boundary : s.isBoundary (start + i) = true) (needle : String) :
    ∃ rest, cut ⟨text⟩ ⟨i, (Source.mk text).size⟩ = .ok rest ∧
      (Source.mk rest).find? needle 0 rest.utf8ByteSize =
        (s.find? needle (start + i) stop).map (· - (start + i)) := by
  have whole := (s.sliceable_iff ⟨start, stop⟩).mpr (by rw [sliced]; rfl)
  have size := Source.size_of_slice? sliced
  have starts : (Source.mk text).isBoundary i = true := by
    rw [Source.isBoundary_slice? sliced inside]
    exact boundary
  have stops : (Source.mk text).isBoundary (Source.mk text).size = true := by
    rw [Source.isBoundary_slice? sliced (by omega), size, Nat.add_sub_cancel' whole.ordered]
    exact whole.stops
  obtain ⟨rest, cutRest⟩ := Option.isSome_iff_exists.mp ((Source.sliceable_iff ⟨text⟩
    ⟨i, (Source.mk text).size⟩).mp ⟨show i ≤ (Source.mk text).size by omega, starts, stops⟩)
  have restSize : (Source.mk rest).size = (Source.mk text).size - i := Source.size_of_slice? cutRest
  refine ⟨rest, cut_eq_of_slice? cutRest, @find?_part s ⟨rest⟩ needle _ _ (by omega) ?_⟩
  intro k short
  rw [Source.byte?_of_slice? cutRest (show i + k < (Source.mk text).size by omega),
    Source.byte?_of_slice? sliced (show start + (i + k) < stop by omega), Nat.add_assoc]

theorem search_behind {text : Source} {fuel i : Nat} (behind : text.size < i) :
    search text comments start needle (fuel + 1) i = .error .badCut := by
  have outside : ¬ text.Sliceable ⟨i, text.size⟩ := fun sliceable =>
    absurd sliceable.ordered (Nat.not_le.mpr behind)
  rw [search, cut_eq_error outside]
  rfl

/-- How a search without a hit ends: the empty needle is found at every offset, so it goes on until it is
behind the end of the text. -/
def missing (needle : String) : Except Fault (Option Nat) :=
  if needle = "" then .error .badCut else .ok none

/-- A search goes on from a place further on each time, until that place is not in the text because the
comment in front of it begins where the text ends. -/
theorem search_eq {text : String} (sliced : s.slice? start stop = some text) (word : stop < 2 ^ 32)
    (cuts : ∀ c ∈ comments, s.isBoundary c.stop = true)
    (ends : ∀ c ∈ comments, c.start < stop → c.stop ≤ stop) {fuel i : Nat}
    (inside : start + i ≤ stop) (boundary : s.isBoundary (start + i) = true)
    (enough : stop < start + i + fuel) :
    search ⟨text⟩ comments start needle (fuel + 1) i =
      (findTokenFrom s comments needle stop fuel (start + i)).elim (missing needle)
        fun hit => .ok (some hit) := by
  have size := Source.size_of_slice? sliced
  induction fuel generalizing i with
  | zero => omega
  | succ fuel ih =>
    obtain ⟨rest, cutRest, found⟩ := exists_rest sliced inside boundary needle
    rw [search, findTokenFrom, cutRest, ok_bind, found]
    cases hitEq : s.find? needle (start + i) stop with
    | none =>
      rw [Option.map_none, Option.elim_none, missing, if_neg (ne_empty_of_find?_eq_none inside hitEq)]
      rfl
    | some hit =>
      obtain ⟨low, high, _⟩ := Source.find?_spec hitEq
      dsimp only [Option.map_some]
      rw [add_ok (by omega), ok_bind, add_ok (by omega), ok_bind,
        show start + (i + (hit - (start + i))) = hit by omega]
      cases around : comments.find? (·.contains hit) with
      | none => rfl
      | some comment =>
        have listed := List.mem_of_find?_eq_some around
        have within := List.find?_some around
        simp only [Span.contains, Bool.and_eq_true, decide_eq_true_eq] at within
        have onward : start + (comment.stop - start) = comment.stop := by omega
        dsimp only
        rw [sub_ok (by omega), ok_bind]
        by_cases reached : comment.stop ≤ stop
        · rw [ih (by omega) ?_ (by omega), onward]
          rw [onward]
          exact cuts comment listed
        · -- The comment begins at the end of the text, where only the empty needle is found.
          have empty : needle = "" := by
            have late := mt (ends comment listed) reached
            rw [← String.utf8ByteSize_eq_zero_iff]
            omega
          rw [search_behind (by omega), findTokenFrom_eq_none (Nat.not_le.mp reached),
            Option.elim_none, missing, if_pos empty]

/-- What a search in a range comes to, told by the search that does not stop. -/
theorem findToken_eq (whole : s.Sliceable ⟨start, stop⟩) (word : stop < 2 ^ 32)
    (cuts : ∀ c ∈ comments, s.isBoundary c.stop = true)
    (ends : ∀ c ∈ comments, c.start < stop → c.stop ≤ stop) :
    findToken s comments start stop needle =
      (JsxCheck.findToken s comments start stop needle).elim (missing needle)
        fun hit => .ok (some hit) := by
  obtain ⟨text, sliced⟩ := Option.isSome_iff_exists.mp ((s.sliceable_iff ⟨start, stop⟩).mp whole)
  have ordered : start ≤ stop := whole.ordered
  have size : text.utf8ByteSize = stop - start := Source.size_of_slice? sliced
  have enough : stop < start + 0 + (stop - start + 1) := by omega
  have searched : search ⟨text⟩ comments start needle (stop - start + 2) 0 =
      (findTokenFrom s comments needle stop (stop - start + 1) start).elim (missing needle)
        fun hit => .ok (some hit) :=
    search_eq sliced word cuts ends (i := 0) ordered whole.starts enough
  unfold findToken JsxCheck.findToken
  dsimp only at sliced
  rw [sliced]
  dsimp only
  rw [size, searched]
  rfl

theorem findToken_ok (small : stop ≤ s.size → stop < 2 ^ 32)
    (cuts : ∀ c ∈ comments, s.isBoundary c.stop = true)
    (ends : ∀ c ∈ comments, c.start < stop → c.stop ≤ stop) (solid : 0 < needle.utf8ByteSize) :
    findToken s comments start stop needle =
      .ok (JsxCheck.findToken s comments start stop needle) := by
  by_cases whole : s.Sliceable ⟨start, stop⟩
  · have filled : needle ≠ "" := by
      rintro rfl
      cases solid
    rw [findToken_eq whole (small whole.bounded) cuts ends, missing, if_neg filled]
    cases JsxCheck.findToken s comments start stop needle <;> rfl
  · have sliced : s.slice? start stop = none := by
      rwa [s.sliceable_iff, Option.not_isSome_iff_eq_none] at whole
    rw [findToken, JsxCheck.findToken, sliced]
    rfl

/-- A comment that goes on behind the end of a search stops it. -/
example : findToken ⟨"a/*=*/b"⟩ [⟨1, 6⟩] 0 5 "=" = .error .badCut := by decide +kernel

/-- A search in a range comes to an end. It finds the first place at which the needle stands outside of
the comments, and nothing when there is no such place. Only the empty needle stops it then: that one
stands at the end of the range too, from where a comment leads out of the range. -/
theorem findToken_isLeast (needle : String) (whole : s.Sliceable ⟨start, stop⟩) (word : stop < 2 ^ 32)
    (cuts : ∀ c ∈ comments, s.isBoundary c.stop = true)
    (ends : ∀ c ∈ comments, c.start < stop → c.stop ≤ stop) :
    (∀ hit, findToken s comments start stop needle = .ok (some hit) ↔
      IsLeast {i | TokenAt s comments start stop needle i} hit) ∧
    (findToken s comments start stop needle = .ok none ↔
      needle ≠ "" ∧ ¬ ∃ i, TokenAt s comments start stop needle i) ∧
    ∀ fault, findToken s comments start stop needle = .error fault ↔
      fault = .badCut ∧ needle = "" ∧ ¬ ∃ i, TokenAt s comments start stop needle i := by
  have least : ∀ hit, IsLeast {i | TokenAt s comments start stop needle i} hit ↔
      JsxCheck.findToken s comments start stop needle = some hit := fun hit => by
    rw [findToken_eq_some_iff_isLeast, and_iff_right whole]
  rw [findToken_eq whole word cuts ends, ← findToken_eq_none_iff whole]
  simp only [least]
  cases JsxCheck.findToken s comments start stop needle with
  | some first => simp
  | none =>
    by_cases empty : needle = ""
    · simp [missing, empty, eq_comm]
    · simp [missing, empty]

end Token

/-- A token that stands in a comment first, and the empty needle where comments follow each other. -/
theorem findToken_isLeast_of_commentsInFront :
    let s : Source := ⟨"<a {/* ... */ ...b} />;"⟩
    let t : Source := ⟨"/*a*//*b*/"⟩
    s.Sliceable ⟨4, 17⟩ ∧ t.Sliceable ⟨0, 5⟩ ∧ 17 < 2 ^ 32 ∧
      (∀ c ∈ [(⟨4, 13⟩ : Span)], s.isBoundary c.stop = true ∧ (c.start < 17 → c.stop ≤ 17)) ∧
      (∀ c ∈ [(⟨0, 5⟩ : Span), ⟨5, 10⟩], t.isBoundary c.stop = true ∧ (c.start < 5 → c.stop ≤ 5)) ∧
      findToken s [⟨4, 13⟩] 4 17 "..." = .ok (some 14) ∧
      IsLeast {i | TokenAt s [⟨4, 13⟩] 4 17 "..." i} 14 ∧
      findToken t [⟨0, 5⟩, ⟨5, 10⟩] 0 5 "=" = .ok none ∧
      (¬ ∃ i, TokenAt t [⟨0, 5⟩, ⟨5, 10⟩] 0 5 "=" i) ∧
      findToken t [⟨0, 5⟩, ⟨5, 10⟩] 0 5 "" = .error .badCut ∧
      ¬ ∃ i, TokenAt t [⟨0, 5⟩, ⟨5, 10⟩] 0 5 "" i := by
  intro s t
  have inS : s.Sliceable ⟨4, 17⟩ := (s.sliceable_iff _).mpr (by decide +kernel)
  have inT : t.Sliceable ⟨0, 5⟩ := (t.sliceable_iff _).mpr (by decide +kernel)
  have dots : findToken s [⟨4, 13⟩] 4 17 "..." = .ok (some 14) := by decide +kernel
  have equals : findToken t [⟨0, 5⟩, ⟨5, 10⟩] 0 5 "=" = .ok none := by decide +kernel
  have empty : findToken t [⟨0, 5⟩, ⟨5, 10⟩] 0 5 "" = .error .badCut := by decide +kernel
  have commentS : ∀ c ∈ [(⟨4, 13⟩ : Span)],
      s.isBoundary c.stop = true ∧ (c.start < 17 → c.stop ≤ 17) := by decide +kernel
  have commentsT : ∀ c ∈ [(⟨0, 5⟩ : Span), ⟨5, 10⟩],
      t.isBoundary c.stop = true ∧ (c.start < 5 → c.stop ≤ 5) := by decide +kernel
  have first := (findToken_isLeast "..." inS (by decide) (fun c listed => (commentS c listed).1)
    fun c listed => (commentS c listed).2).1 14
  have none := (findToken_isLeast "=" inT (by decide) (fun c listed => (commentsT c listed).1)
    fun c listed => (commentsT c listed).2).2.1
  have stopped := (findToken_isLeast "" inT (by decide) (fun c listed => (commentsT c listed).1)
    fun c listed => (commentsT c listed).2).2.2 .badCut
  exact ⟨inS, inT, by decide, commentS, commentsT, dots, first.mp dots, equals, (none.mp equals).2,
    empty, (stopped.mp empty).2.2⟩

end Guarded

end JsxCheck
