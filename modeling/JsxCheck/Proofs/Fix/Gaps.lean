import JsxCheck.Proofs.Fix.Carried
import JsxCheck.Proofs.Guarded.Layout
import JsxCheck.Rule.Options

/-!
Gaps that a fix closes or opens.

A fix of a gap puts its comments side by side, with no byte between them, and an inserted space is in no
comment. So the range between two tokens has the space that is asked for once a fix for that is made
(`Settles.isSome_whitespaceGap`).
-/
namespace JsxCheck

open Guarded (Clear)

/-- The fix that leaves only the comments of a gap. -/
def Gap.fix (gap : Gap) : Fix := ⟨gap.span, gap.comments, none⟩

/-- The text that a fix leaves of a document, where the comments keep their texts. -/
structure Fix.Leaves (f : Fix) (doc : Document) (t : Source) : Prop where
  bytes : t.bytes = f.apply doc.source.bytes
  comments : (f.carryComments doc.comments).map t.slice = doc.comments.map doc.source.slice

/-- The document once a fix is made. -/
def Document.fixed (doc : Document) (f : Fix) (t : Source) : Document :=
  { doc with source := t, lines := .ofSource t, comments := f.carryComments doc.comments }

/-- One token is in front of another, and no comment reaches across an end of the range between them. -/
structure Document.Beside (doc : Document) (a b : Span) : Prop where
  filled : a.start < a.stop
  range : doc.source.Sliceable ⟨a.stop, b.start⟩
  clearBehind : Clear doc.comments a.stop
  clearInFront : Clear doc.comments b.start

variable {s t : Source} {comments : List Span} {f : Fix} {start stop i : Nat}

/-! ### Ranges -/

section Ranges

theorem parts_of_clear (arranged : s.Arranged comments) (starts : Clear comments f.span.start)
    (stops : Clear comments f.span.stop) : f.Parts comments := by
  intro c listed
  have filled := arranged.filled c listed
  have first := starts c listed
  have last := stops c listed
  omega

theorem rewrites_fix {gap : Gap} (found : whitespaceGap s comments start stop = some gap) :
    gap.fix.Rewrites s comments := by
  obtain ⟨_, rfl⟩ := whitespaceGap_eq found
  exact ⟨"", (String.append_empty).symm⟩

theorem rewrites_insert (arranged : s.Arranged comments) (i : Nat) (text : String) :
    (Fix.insert i text).Rewrites s comments := by
  refine ⟨text, ?_⟩
  change text = String.join ((commentsWithin comments i i).map s.slice) ++ text
  rw [arranged.commentsWithin_point]
  exact String.empty_append.symm

theorem span_fix {gap : Gap} (found : whitespaceGap s comments start stop = some gap) :
    gap.fix.span = ⟨start, stop⟩ := by
  obtain ⟨_, rfl⟩ := whitespaceGap_eq found
  rfl

/-- What is behind a gap is right behind its comments once they are all that is left. -/
theorem start_carry_fix {gap : Gap} {span : Span}
    (found : whitespaceGap s comments start span.start = some gap) :
    (gap.fix.carry span).start = start + gap.fix.bytes.length := by
  have less := (whitespaceGap_eq found).1
  have under := span_fix found
  rw [Fix.carry_of_le (by rw [under]), Fix.width, under, Span.width]
  dsimp only
  omega

theorem bytes_insert (i : Nat) : (Fix.insert i " ").bytes = [32] := by
  change (Source.mk " ").bytes = [32]
  decide

/-- What is behind an inserted space moves by one byte. -/
theorem carry_insert_of_le {span : Span} (after : i ≤ span.start) :
    (Fix.insert i " ").carry span = ⟨span.start + 1, span.stop + 1⟩ := by
  have width : (Fix.insert i " ").width = 0 := Nat.sub_self i
  rw [Fix.carry_of_le after, width, bytes_insert]
  rfl

variable (arranged : s.Arranged comments)

include arranged

/-- What a fix of a gap writes is all comments. -/
theorem exists_comment_of_fix {gap : Gap} (found : whitespaceGap s comments start stop = some gap)
    (low : start ≤ i) (high : i < start + gap.fix.bytes.length) :
    ∃ c ∈ closedUp start (commentsWithin comments start stop), c.start ≤ i ∧ i < c.stop := by
  obtain ⟨_, rfl⟩ := whitespaceGap_eq found
  have sliceable : ∀ c ∈ commentsWithin comments start stop, s.Sliceable c :=
    fun c member => arranged.sliceable c (arranged.mem_commentsWithin.mp member).1
  rw [Fix.length_bytes] at high
  change i < start +
    String.utf8Len (String.join ((commentsWithin comments start stop).map s.slice)).toList at high
  rw [Fix.utf8Len_join sliceable] at high
  exact exists_mem_closedUp low high

/-- A gap is none once only its comments are left. -/
theorem whitespaceGap_eq_none_of_fix {gap : Gap}
    (found : whitespaceGap s comments start stop = some gap) (starts : Clear comments start)
    (stops : Clear comments stop) (made : gap.fix.Made s t) :
    whitespaceGap t (gap.fix.carryComments comments) start (start + gap.fix.bytes.length) = none := by
  obtain ⟨less, _⟩ := whitespaceGap_eq found
  have span := span_fix found
  have sliceable : s.Sliceable gap.fix.span := sliceable_of_whitespaceGap found
  rw [span] at sliceable
  have order : gap.fix.span.start ≤ gap.fix.span.stop := by
    rw [span]
    exact Nat.le_of_lt less
  have parts : gap.fix.Parts comments := parts_of_clear arranged (by rwa [span]) (by rwa [span])
  have carried := made.arranged_carryComments arranged order parts (rewrites_fix found)
  have begins := made.isBoundary_inFront sliceable.starts (by rw [span])
  have ends : t.isBoundary (start + gap.fix.bytes.length) = true := by
    have after : gap.fix.span.stop ≤ (Span.point stop).start := by
      rw [span]
      exact Nat.le_refl _
    have behind := made.sliceable_behind (Source.sliceable_point sliceable.stops) after
    rw [← Fix.carry_of_le after] at behind
    have moved : (gap.fix.carry (Span.point stop)).start = start + gap.fix.bytes.length :=
      start_carry_fix found
    rw [← moved]
    exact behind.starts
  have range : t.Sliceable ⟨start, start + gap.fix.bytes.length⟩ :=
    ⟨Nat.le_add_right _ _, begins, ends⟩
  rw [Option.eq_none_iff_forall_ne_some]
  intro other left
  obtain ⟨_, i, low, high, free⟩ := (carried.whitespaceGap_eq_some_iff range).mp left
  obtain ⟨c, under, around⟩ := exists_comment_of_fix arranged found low high
  have within := within_of_mem_closedUp under
  have room := Fix.sum_width_le_of_rewrites arranged (rewrites_fix found)
  rw [span] at room
  refine free c (Fix.mem_carryComments_iff.mpr (Or.inr (Or.inl ?_))) within.1
    (Nat.le_trans within.2 (Nat.add_le_add_left room _)) around
  rw [span]
  exact under

/-- A space between two offsets makes a gap. -/
theorem whitespaceGap_isSome_of_insert (sliceable : s.Sliceable ⟨start, stop⟩)
    (starts : Clear comments start) (stops : Clear comments stop) (atEnd : i = start ∨ i = stop)
    (made : (Fix.insert i " ").Made s t) :
    (whitespaceGap t ((Fix.insert i " ").carryComments comments) start (stop + 1)).isSome = true := by
  have ordered : start ≤ stop := sliceable.ordered
  have clear : Clear comments i := by
    rcases atEnd with rfl | rfl
    · exact starts
    · exact stops
  have order : (Fix.insert i " ").span.start ≤ (Fix.insert i " ").span.stop := Nat.le_refl i
  have parts : (Fix.insert i " ").Parts comments := parts_of_clear arranged clear clear
  have carried := made.arranged_carryComments arranged order parts (rewrites_insert arranged i " ")
  have begins := made.isBoundary_inFront sliceable.starts (show start ≤ i by omega)
  have ends : t.isBoundary (stop + 1) = true := by
    have after : i ≤ (Span.point stop).start := show i ≤ stop by omega
    have behind := made.sliceable_behind (Source.sliceable_point sliceable.stops) after
    rw [← Fix.carry_of_le after, carry_insert_of_le after] at behind
    exact behind.starts
  have gap := (carried.whitespaceGap_eq_some_iff ⟨Nat.le_succ_of_le ordered, begins, ends⟩).mpr
    ⟨rfl, i, by omega, by omega, fun c member _ _ around => ?_⟩
  · rw [gap]
    rfl
  -- The space is behind all that stays and in front of all that moves.
  · rcases Fix.mem_carryComments_iff.mp member with ⟨_, before⟩ | under | ⟨d, ⟨_, after⟩, rfl⟩
    · change c.stop ≤ i at before
      omega
    · change c ∈ closedUp i (commentsWithin comments i i) at under
      rw [arranged.commentsWithin_point] at under
      cases under
    · change i ≤ d.start at after
      rw [carry_insert_of_le after] at around
      dsimp only at around
      omega

end Ranges

theorem Fix.Made.leaves {doc : Document} (made : f.Made doc.source t)
    (arranged : doc.source.Arranged doc.comments) (order : f.span.start ≤ f.span.stop)
    (parts : f.Parts doc.comments) (rewrites : f.Rewrites doc.source doc.comments) :
    f.Leaves doc t := by
  have texts := congrArg (List.map fun text : Option String => text.getD "")
    (made.slice?_carryComments arranged order parts rewrites)
  rw [List.map_map, List.map_map] at texts
  exact ⟨made.bytes_eq, texts⟩

/-! ### Between two tokens -/

/-- A fix gives the range between two tokens the space that is asked for. -/
inductive Settles (doc : Document) (a b : Span) : Usage → Fix → Prop
  | close {gap : Gap} (found : whitespaceGap doc.source doc.comments a.stop b.start = some gap) :
    Settles doc a b .never gap.fix
  | behind : Settles doc a b .always (.insert a.stop " ")
  | inFront : Settles doc a b .always (.insert b.start " ")

namespace Settles

variable {doc : Document} {a b : Span} {usage : Usage} (settles : Settles doc a b usage f)
  (beside : doc.Beside a b)

include settles beside

theorem between : a.stop ≤ f.span.start ∧ f.span.start ≤ f.span.stop ∧ f.span.stop ≤ b.start := by
  have ordered : a.stop ≤ b.start := beside.range.ordered
  cases settles with
  | close found =>
    obtain ⟨_, rfl⟩ := whitespaceGap_eq found
    exact ⟨Nat.le_refl _, ordered, Nat.le_refl _⟩
  | behind => exact ⟨Nat.le_refl _, Nat.le_refl _, ordered⟩
  | inFront => exact ⟨ordered, Nat.le_refl _, Nat.le_refl _⟩

theorem sliceable : doc.source.Sliceable f.span := by
  cases settles with
  | close found => exact sliceable_of_whitespaceGap found
  | behind => exact Source.sliceable_point beside.range.starts
  | inFront => exact Source.sliceable_point beside.range.stops

theorem carry_first : f.carry a = a := by
  have filled := beside.filled
  have order := settles.between beside
  exact Fix.carry_of_lt (by omega)

variable (arranged : doc.source.Arranged doc.comments)

include arranged

theorem parts : f.Parts doc.comments := by
  cases settles with
  | close found =>
    obtain ⟨_, rfl⟩ := whitespaceGap_eq found
    exact parts_of_clear arranged beside.clearBehind beside.clearInFront
  | behind => exact parts_of_clear arranged beside.clearBehind beside.clearBehind
  | inFront => exact parts_of_clear arranged beside.clearInFront beside.clearInFront

omit beside in
theorem rewrites : f.Rewrites doc.source doc.comments := by
  cases settles with
  | close found => exact rewrites_fix found
  | behind => exact rewrites_insert arranged _ _
  | inFront => exact rewrites_insert arranged _ _

theorem leaves (made : f.Made doc.source t) : f.Leaves doc t :=
  made.leaves arranged (settles.between beside).2.1 (settles.parts beside arranged)
    (settles.rewrites arranged)

/-- The space that is asked for is there. -/
theorem isSome_whitespaceGap (made : f.Made doc.source t) :
    (whitespaceGap t (f.carryComments doc.comments) (f.carry a).stop (f.carry b).start).isSome =
      (usage == .always) := by
  rw [settles.carry_first beside]
  cases settles with
  | close found =>
    rw [start_carry_fix found, whitespaceGap_eq_none_of_fix arranged found beside.clearBehind
      beside.clearInFront made]
    rfl
  | behind =>
    rw [carry_insert_of_le beside.range.ordered]
    exact whitespaceGap_isSome_of_insert arranged beside.range beside.clearBehind beside.clearInFront
      (Or.inl rfl) made
  | inFront =>
    rw [carry_insert_of_le (Nat.le_refl _)]
    exact whitespaceGap_isSome_of_insert arranged beside.range beside.clearBehind beside.clearInFront
      (Or.inr rfl) made

omit beside in
/-- What a fix writes between tokens is a comment or a space. -/
theorem exists_comment (made : f.Made doc.source t) {k : Nat} (low : f.span.start ≤ k)
    (high : k < f.span.start + f.bytes.length) (byte : t.byte? k = some 61) :
    ∃ c ∈ f.carryComments doc.comments, c.start ≤ k ∧ k < c.stop := by
  have blank : ∀ i, f = .insert i " " → t.byte? k = some 32 := by
    rintro i rfl
    have under := made.byte?_under (k := 0) (by rw [bytes_insert]; exact Nat.one_pos)
    rw [bytes_insert] at under high
    obtain rfl : k = (Fix.insert i " ").span.start + 0 := Nat.le_antisymm (Nat.le_of_lt_succ high) low
    exact under
  cases settles with
  | close found =>
    rw [span_fix found] at low high
    obtain ⟨c, under, around⟩ := exists_comment_of_fix arranged found low high
    refine ⟨c, Fix.mem_carryComments_iff.mpr (Or.inr (Or.inl ?_)), around⟩
    rw [span_fix found]
    exact under
  | behind =>
    rw [blank _ rfl] at byte
    cases byte
  | inFront =>
    rw [blank _ rfl] at byte
    cases byte

end Settles

end JsxCheck
