import JsxCheck.Proofs.Source.Characters
import JsxCheck.Proofs.Source.Occurrences
import JsxCheck.Text.Blank
import Mathlib.Algebra.GroupWithZero.Nat

/-!
The comments of a text, and what is left between two tokens without them.

Comments follow each other, and each runs from `//` to the end of its line or from `/*` to `*/`. The
space between two tokens is no gap exactly when its comments cover it, and a token is found between
two offsets whenever it stands there outside all comments.
-/
namespace JsxCheck

namespace Source

/-- From `//` to the end of a line. -/
def IsLineComment (s : Source) (span : Span) : Prop :=
  s.hasAt "//" span.start = true ∧
    (span.stop = s.size ∨ (s.char? span.stop).any isLineTerminator = true)

/-- From `/*` to `*/`. -/
def IsBlockComment (s : Source) (span : Span) : Prop :=
  s.hasAt "/*" span.start = true ∧ s.hasAt "*/" (span.stop - 2) = true

/-- Spans follow each other in a text, and each has something to cut out. -/
structure Arranged (s : Source) (spans : List Span) : Prop where
  follow : spans.Pairwise fun a b => a.stop ≤ b.start
  sliceable : ∀ c ∈ spans, s.Sliceable c
  filled : ∀ c ∈ spans, c.start < c.stop

/-- Spans are those of the comments of a text, in source order. -/
structure Commented (s : Source) (comments : List Span) : Prop where
  follow : comments.Pairwise fun a b => a.stop ≤ b.start
  sliceable : ∀ c ∈ comments, s.Sliceable c
  long : ∀ c ∈ comments, c.start + 2 ≤ c.stop
  form : ∀ c ∈ comments, s.IsLineComment c ∨ s.IsBlockComment c

/-- A comment that begins with `//` lies between two offsets. -/
def HasLineComment (s : Source) (comments : List Span) (start stop : Nat) : Prop :=
  ∃ c ∈ comments, s.hasAt "//" c.start = true ∧ start ≤ c.start ∧ c.stop ≤ stop

instance (s : Source) (span : Span) : Decidable (s.IsLineComment span) :=
  inferInstanceAs (Decidable (_ ∧ (_ ∨ _)))

instance (s : Source) (span : Span) : Decidable (s.IsBlockComment span) :=
  inferInstanceAs (Decidable (_ ∧ _))

theorem Commented.arranged {s : Source} {comments : List Span} (commented : s.Commented comments) :
    s.Arranged comments where
  follow := commented.follow
  sliceable := commented.sliceable
  filled c listed := by
    have long := commented.long c listed
    omega

/-- A comment begins with a slash. -/
theorem Commented.slash {s : Source} {comments : List Span} (commented : s.Commented comments)
    {c : Span} (listed : c ∈ comments) : s.byte? c.start = some 47 := by
  rcases commented.form c listed with ⟨opens, _⟩ | ⟨opens, _⟩
  · exact byte?_of_hasAt opens (k := 0) (by decide)
  · exact byte?_of_hasAt opens (k := 0) (by decide)

end Source

/-! ### The comments between two offsets -/

section Between

variable {comments : List Span} {start stop : Nat}

theorem takeWhile_eq_filter {α : Type} {p : α → Bool} {l : List α}
    (down : l.Pairwise fun a b => p b = true → p a = true) : l.takeWhile p = l.filter p := by
  induction l with
  | nil => rfl
  | cons a l ih =>
    obtain ⟨first, down⟩ := List.pairwise_cons.mp down
    cases holds : p a with
    | true => rw [List.takeWhile_cons_of_pos holds, List.filter_cons_of_pos holds, ih down]
    | false =>
      have none : l.filter p = [] := List.filter_eq_nil_iff.mpr fun b member later => by
        rw [first b member later] at holds
        cases holds
      rw [List.takeWhile_cons_of_neg (by simp [holds]), List.filter_cons_of_neg (by simp [holds]),
        none]

theorem dropWhile_eq_filter {α : Type} {p : α → Bool} {l : List α}
    (down : l.Pairwise fun a b => p b = true → p a = true) :
    l.dropWhile p = l.filter fun a => !p a := by
  induction l with
  | nil => rfl
  | cons a l ih =>
    obtain ⟨first, later⟩ := List.pairwise_cons.mp down
    cases holds : p a with
    | true => rw [List.dropWhile_cons_of_pos holds, List.filter_cons_of_neg (by simp [holds]), ih later]
    | false =>
      rw [List.dropWhile_cons_of_neg (by simp [holds]), List.filter_eq_self.mpr]
      intro b member
      rcases List.mem_cons.mp member with rfl | member
      · simp [holds]
      · cases below : p b with
        | true =>
          rw [first b member below] at holds
          cases holds
        | false => rfl

/-- What satisfies a test that holds of a front only stands in front of what does not. -/
theorem filter_append_filter_not {α : Type} {p : α → Bool} {l : List α}
    (down : l.Pairwise fun a b => p b = true → p a = true) :
    l.filter p ++ l.filter (fun a => !p a) = l := by
  rw [← takeWhile_eq_filter down, ← dropWhile_eq_filter down, List.takeWhile_append_dropWhile]

variable (follow : comments.Pairwise fun a b => a.stop ≤ b.start)
  (ordered : ∀ c ∈ comments, c.start ≤ c.stop)

include follow ordered

theorem commentsWithin_eq_filter : commentsWithin comments start stop =
    comments.filter fun c => decide (start ≤ c.start) && decide (c.stop ≤ stop) := by
  have byStart : comments.Pairwise fun a b =>
      decide (b.start < start) = true → decide (a.start < start) = true := by
    refine follow.imp_of_mem fun {a b} first _ le => ?_
    have order := ordered a first
    simp only [decide_eq_true_eq]
    omega
  have byStop : (comments.dropWhile (·.start < start)).Pairwise fun a b =>
      decide (b.stop ≤ stop) = true → decide (a.stop ≤ stop) = true := by
    refine List.Pairwise.sublist (List.dropWhile_sublist _) (follow.imp_of_mem ?_)
    intro a b _ second le
    have order := ordered b second
    simp only [decide_eq_true_eq]
    omega
  rw [commentsWithin, takeWhile_eq_filter byStop, dropWhile_eq_filter byStart, List.filter_filter]
  refine List.filter_congr fun c _ => ?_
  rw [Bool.and_comm, ← decide_not]
  simp only [Nat.not_lt]

theorem mem_commentsWithin {c : Span} :
    c ∈ commentsWithin comments start stop ↔ c ∈ comments ∧ start ≤ c.start ∧ c.stop ≤ stop := by
  simp only [commentsWithin_eq_filter follow ordered, List.mem_filter, Bool.and_eq_true,
    decide_eq_true_eq]

omit ordered in
theorem commentsWithin_follow :
    (commentsWithin comments start stop).Pairwise fun a b => a.stop ≤ b.start :=
  follow.sublist ((List.takeWhile_sublist _).trans (List.dropWhile_sublist _))

end Between

/-- Spans that follow each other between two offsets are together as wide as the space there exactly
when they leave no byte of it out. -/
theorem sum_width_lt_iff {spans : List Span} {start stop : Nat}
    (follow : spans.Pairwise fun a b => a.stop ≤ b.start)
    (inside : ∀ c ∈ spans, start ≤ c.start ∧ c.start ≤ c.stop ∧ c.stop ≤ stop) :
    (spans.map Span.width).sum ≤ stop - start ∧
      ((spans.map Span.width).sum < stop - start ↔
        ∃ i, start ≤ i ∧ i < stop ∧ ∀ c ∈ spans, ¬ (c.start ≤ i ∧ i < c.stop)) := by
  induction spans generalizing start with
  | nil =>
    refine ⟨Nat.zero_le _, fun less => ⟨start, Nat.le_refl _, ?_, nofun⟩, ?_⟩
    · exact Nat.lt_of_sub_pos less
    · rintro ⟨i, low, high, _⟩
      exact Nat.sub_pos_of_lt (by omega)
  | cons c spans ih =>
    obtain ⟨first, later⟩ := List.pairwise_cons.mp follow
    obtain ⟨low, order, high⟩ := inside c List.mem_cons_self
    have rest : ∀ d ∈ spans, c.stop ≤ d.start ∧ d.start ≤ d.stop ∧ d.stop ≤ stop :=
      fun d member => ⟨first d member, (inside d (List.mem_cons_of_mem _ member)).2⟩
    obtain ⟨bound, less⟩ := ih later rest
    rw [List.map_cons, List.sum_cons, Span.width]
    refine ⟨by omega, fun narrow => ?_, ?_⟩
    · by_cases touching : c.start = start
      · obtain ⟨i, after, before, free⟩ := less.mp (by omega)
        refine ⟨i, by omega, before, fun d member => ?_⟩
        rcases List.mem_cons.mp member with rfl | member
        · omega
        · exact free d member
      · refine ⟨start, Nat.le_refl _, by omega, fun d member => ?_⟩
        rcases List.mem_cons.mp member with rfl | member
        · omega
        · have behind := first d member
          omega
    · rintro ⟨i, after, before, free⟩
      have apart := free c List.mem_cons_self
      by_cases ahead : i < c.start
      · omega
      · have narrow := less.mpr ⟨i, by omega, before,
          fun d member => free d (List.mem_cons_of_mem _ member)⟩
        omega

/-- A gap goes from the one offset to the other, with the comments between. -/
theorem whitespaceGap_eq {s : Source} {comments : List Span} {start stop : Nat} {gap : Gap}
    (found : whitespaceGap s comments start stop = some gap) : start < stop ∧
      gap = ⟨⟨start, stop⟩, String.join ((commentsWithin comments start stop).map s.slice)⟩ := by
  unfold whitespaceGap at found
  split at found
  · cases found
  · rename_i less
    split at found
    · cases found
    · dsimp only at found
      split at found
      · exact ⟨Nat.not_le.mp less, (Option.some.inj found).symm⟩
      · cases found

namespace Source.Arranged

variable {s : Source} {comments : List Span} (arranged : s.Arranged comments) {start stop : Nat}

include arranged

theorem mem_commentsWithin {c : Span} :
    c ∈ commentsWithin comments start stop ↔ c ∈ comments ∧ start ≤ c.start ∧ c.stop ≤ stop :=
  JsxCheck.mem_commentsWithin arranged.follow fun c listed => (arranged.sliceable c listed).ordered

theorem commentsWithin_point (i : Nat) : commentsWithin comments i i = [] := by
  refine List.eq_nil_iff_forall_not_mem.mpr fun c member => ?_
  obtain ⟨listed, low, high⟩ := arranged.mem_commentsWithin.mp member
  have filled := arranged.filled c listed
  omega

/-- A gap is there when some byte between two offsets is in no comment there. -/
theorem whitespaceGap_eq_some_iff (sliceable : s.Sliceable ⟨start, stop⟩) {gap : Gap} :
    whitespaceGap s comments start stop = some gap ↔
      gap = ⟨⟨start, stop⟩, String.join ((commentsWithin comments start stop).map s.slice)⟩ ∧
        ∃ i, start ≤ i ∧ i < stop ∧
          ∀ c ∈ comments, start ≤ c.start → c.stop ≤ stop → ¬ (c.start ≤ i ∧ i < c.stop) := by
  have follow : (commentsWithin comments start stop).Pairwise fun a b => a.stop ≤ b.start :=
    commentsWithin_follow arranged.follow
  have inside : ∀ c ∈ commentsWithin comments start stop,
      start ≤ c.start ∧ c.start ≤ c.stop ∧ c.stop ≤ stop := by
    intro c member
    obtain ⟨listed, low, high⟩ := arranged.mem_commentsWithin.mp member
    exact ⟨low, (arranged.sliceable c listed).ordered, high⟩
  have sliced : (s.slice? start stop).isNone = false := by
    rw [← Option.not_isSome, ((s.sliceable_iff _).mp sliceable)]
    rfl
  have narrow := (sum_width_lt_iff follow inside).2
  have free : (∃ i, start ≤ i ∧ i < stop ∧
        ∀ c ∈ commentsWithin comments start stop, ¬ (c.start ≤ i ∧ i < c.stop)) ↔
      ∃ i, start ≤ i ∧ i < stop ∧
        ∀ c ∈ comments, start ≤ c.start → c.stop ≤ stop → ¬ (c.start ≤ i ∧ i < c.stop) := by
    simp only [arranged.mem_commentsWithin, and_imp]
  rw [← free, ← narrow, whitespaceGap, sliced]
  by_cases empty : stop ≤ start
  · rw [if_pos empty, Nat.sub_eq_zero_of_le empty]
    simp
  · rw [if_neg empty, if_neg Bool.false_ne_true]
    dsimp only
    rw [← List.sum_eq_foldl]
    split
    · rename_i wide
      simp [wide, eq_comm]
    · rename_i full
      simp [full]

theorem beside {c d : Span} (first : c ∈ comments) (second : d ∈ comments) :
    c = d ∨ c.stop ≤ d.start ∨ d.stop ≤ c.start := by
  have forward : comments.Pairwise fun a b => a = b ∨ a.stop ≤ b.start ∨ b.stop ≤ a.start :=
    arranged.follow.imp fun order => Or.inr (Or.inl order)
  have backward : comments.Pairwise fun b a => a = b ∨ a.stop ≤ b.start ∨ b.stop ≤ a.start :=
    arranged.follow.imp fun order => Or.inr (Or.inr order)
  have same : ∀ a ∈ comments, a = a ∨ a.stop ≤ a.start ∨ a.stop ≤ a.start := fun a _ => Or.inl rfl
  exact forward.forall_of_forall_of_flip same backward first second

end Source.Arranged

namespace Source.Commented

variable {s : Source} {comments : List Span} (commented : s.Commented comments) {start stop : Nat}

include commented

/-- A line comment in front of a token is followed by the end of its line. -/
theorem lineTerminator {c : Span} {x : Char} (listed : c ∈ comments)
    (line : s.hasAt "//" c.start = true) (token : s.char? stop = some x)
    (sameLine : isLineTerminator x = false) (high : c.stop ≤ stop) :
    c.stop < stop ∧ ∃ y, s.char? c.stop = some y ∧ isLineTerminator y = true := by
  have bound : stop < s.size := by
    have ends := le_size_of_isBoundary (isBoundary_add_utf8Size token)
    have size := x.utf8Size_pos
    omega
  rcases commented.form c listed with ⟨_, last | terminator⟩ | ⟨block, _⟩
  · omega
  · obtain ⟨y, found, ends⟩ : ∃ y, s.char? c.stop = some y ∧ isLineTerminator y = true := by
      cases found : s.char? c.stop with
      | none =>
        rw [found] at terminator
        cases terminator
      | some y =>
        rw [found] at terminator
        exact ⟨y, rfl, terminator⟩
    refine ⟨Nat.lt_of_le_of_ne high fun same => ?_, y, found, ends⟩
    rw [same, token] at found
    rw [Option.some.inj found, ends] at sameLine
    cases sameLine
  · have second := byte?_of_hasAt line (k := 1) (by decide)
    rw [byte?_of_hasAt block (k := 1) (by decide)] at second
    exact absurd second (by decide)

/-- Behind a line comment its line ends, which leaves a gap in front of a token. -/
theorem whitespaceGap_of_lineComment (starts : s.isBoundary start = true) {x : Char}
    (token : s.char? stop = some x) (sameLine : isLineTerminator x = false)
    (held : s.HasLineComment comments start stop) :
    whitespaceGap s comments start stop =
      some ⟨⟨start, stop⟩, String.join ((commentsWithin comments start stop).map s.slice)⟩ := by
  obtain ⟨c, listed, line, low, high⟩ := held
  have long := commented.long c listed
  obtain ⟨before, y, terminator, ends⟩ := commented.lineTerminator listed line token sameLine high
  refine (commented.arranged.whitespaceGap_eq_some_iff
    ⟨by dsimp only; omega, starts, isBoundary_of_char? token⟩).mpr ⟨rfl, c.stop, by omega, before, ?_⟩
  -- The end of the line is in no comment: the next one begins with a slash.
  intro other isOther _ _ around
  rcases commented.arranged.beside listed isOther with rfl | after | ahead
  · omega
  · have slash := commented.slash isOther
    rw [show other.start = c.stop by omega] at slash
    have found : s.char? c.stop = some '/' := char?_eq_of_byte? slash (by decide) (by decide)
    obtain rfl : '/' = y := Option.some.inj (found.symm.trans terminator)
    revert ends
    decide
  · omega

/-- Where nothing but comments stands behind an offset, a comment begins there. -/
theorem exists_of_whitespaceGap_eq_none (sliceable : s.Sliceable ⟨start, stop⟩) (less : start < stop)
    (none : whitespaceGap s comments start stop = none) :
    ∃ c ∈ comments, c.start = start ∧ c.stop ≤ stop := by
  by_contra missing
  have found := (commented.arranged.whitespaceGap_eq_some_iff sliceable).mpr
    ⟨rfl, start, Nat.le_refl _, less, fun c listed low high inside =>
      missing ⟨c, listed, Nat.le_antisymm inside.1 low, high⟩⟩
  rw [none] at found
  cases found

/-- In front of a token that ends no line, a comment that ends there ends with a slash. -/
theorem byte?_before {c : Span} {b : UInt8} (listed : c ∈ comments)
    (token : s.byte? c.stop = some b) (ascii : b.toNat < 128) (sameLine : b ≠ 10 ∧ b ≠ 13) :
    s.byte? (c.stop - 1) = some 47 := by
  have long := commented.long c listed
  rcases commented.form c listed with ⟨_, ends⟩ | ⟨_, closes⟩
  · obtain ⟨x, here, code, _⟩ := char?_of_byte? token ascii
    rcases ends with last | terminator
    · have inside := lt_size_of_byte? token
      omega
    · rw [here, Option.any_some] at terminator
      simp only [isLineTerminator, Bool.or_eq_true, beq_iff_eq] at terminator
      have other : b.toNat ≠ 10 ∧ b.toNat ≠ 13 :=
        ⟨fun same => sameLine.1 (UInt8.toNat_inj.mp same),
          fun same => sameLine.2 (UInt8.toNat_inj.mp same)⟩
      rcases terminator with ((rfl | rfl) | wide) | wide
      · exact absurd code.symm other.1
      · exact absurd code.symm other.2
      · omega
      · omega
  · have slash := byte?_of_hasAt closes (k := 1) (by decide)
    rw [show c.stop - 2 + 1 = c.stop - 1 by omega] at slash
    exact slash

end Source.Commented

/-! ### Tokens outside comments -/

section Token

variable {s : Source} {comments : List Span} {needle : String} {start stop hit : Nat}

/-- What stands in front of the token that a search finds stands in comments. -/
theorem findTokenFrom_first {fuel i : Nat}
    (found : findTokenFrom s comments needle stop fuel i = some hit) :
    (∀ c ∈ comments, ¬ (c.start ≤ hit ∧ hit < c.stop)) ∧
      ∀ k, i ≤ k → k < hit → s.hasAt needle k = true → ∃ c ∈ comments, c.start ≤ k ∧ k < c.stop := by
  induction fuel generalizing i with
  | zero => cases found
  | succ fuel ih =>
    rw [findTokenFrom] at found
    split at found
    · cases found
    · rename_i first here
      have absent := Source.find?_first here
      split at found
      · rename_i comment inside
        obtain ⟨outside, earlier⟩ := ih found
        refine ⟨outside, fun k low high stands => ?_⟩
        have around := List.find?_some inside
        simp only [Span.contains, Bool.and_eq_true, decide_eq_true_eq] at around
        by_cases before : k < first
        · rw [absent k low before] at stands
          cases stands
        · by_cases within : k < comment.stop
          · exact ⟨comment, List.mem_of_find?_eq_some inside, by omega, within⟩
          · exact earlier k (Nat.not_lt.mp within) high stands
      · rename_i outside
        cases found
        refine ⟨fun c listed inside => ?_, fun k low high stands => ?_⟩
        · exact List.find?_eq_none.mp outside c listed (by simp [Span.contains, inside])
        · rw [absent k low high] at stands
          cases stands

theorem findTokenFrom_eq_some {fuel i : Nat} (enough : stop < i + fuel) (low : i ≤ hit)
    (high : hit + needle.utf8ByteSize ≤ stop) (here : s.hasAt needle hit = true)
    (outside : ∀ c ∈ comments, ¬ (c.start ≤ hit ∧ hit < c.stop))
    (earlier : ∀ k, i ≤ k → k < hit → s.hasAt needle k = true →
      ∃ c ∈ comments, c.start ≤ k ∧ k < c.stop) :
    findTokenFrom s comments needle stop fuel i = some hit := by
  induction fuel generalizing i with
  | zero => omega
  | succ fuel ih =>
    obtain ⟨first, found⟩ := Option.isSome_iff_exists.mp
      (Source.find?_isSome_iff.mpr ⟨hit, low, high, here⟩)
    obtain ⟨after, _, stands⟩ := Source.find?_spec found
    have before : first ≤ hit := by
      by_contra later
      rw [Source.find?_first found hit low (Nat.not_le.mp later)] at here
      cases here
    rw [findTokenFrom, found]
    dsimp only
    split
    · rename_i comment inside
      have around := List.find?_some inside
      simp only [Span.contains, Bool.and_eq_true, decide_eq_true_eq] at around
      have free := outside comment (List.mem_of_find?_eq_some inside)
      exact ih (by omega) (by omega) fun k later => earlier k (by omega)
    · rename_i none
      rcases Nat.eq_or_lt_of_le before with rfl | less
      · rfl
      · obtain ⟨c, listed, around⟩ := earlier first after less stands
        exact absurd (by simp [Span.contains, around]) (List.find?_eq_none.mp none c listed)

/-- A search finds the first token that is in no comment. -/
theorem findToken_eq_some_iff : findToken s comments start stop needle = some hit ↔
    s.Sliceable ⟨start, stop⟩ ∧ (start ≤ hit ∧ hit + needle.utf8ByteSize ≤ stop) ∧
      s.hasAt needle hit = true ∧ (∀ c ∈ comments, ¬ (c.start ≤ hit ∧ hit < c.stop)) ∧
        ∀ k, start ≤ k → k < hit → s.hasAt needle k = true →
          ∃ c ∈ comments, c.start ≤ k ∧ k < c.stop := by
  rw [Source.sliceable_iff]
  constructor
  · intro found
    obtain ⟨low, high, here⟩ := findToken_spec found
    unfold findToken at found
    split at found
    · rename_i sliced
      obtain ⟨outside, earlier⟩ := findTokenFrom_first found
      exact ⟨sliced, ⟨low, high⟩, here, outside, earlier⟩
    · cases found
  · rintro ⟨sliced, ⟨low, high⟩, here, outside, earlier⟩
    rw [findToken, if_pos sliced]
    exact findTokenFrom_eq_some (by omega) low high here outside earlier

theorem not_contains_of_findToken (found : findToken s comments start stop needle = some hit) :
    ∀ c ∈ comments, ¬ (c.start ≤ hit ∧ hit < c.stop) :=
  (findToken_eq_some_iff.mp found).2.2.2.1

end Token

end JsxCheck
