import JsxCheck.Proofs.Fix.Gaps
import JsxCheck.Proofs.Rule.KeptComments

/-!
Spacing that is settled by a fix.

The check of braces and that of `=` look at one range on each side of a token. Once a fix is made, the same
check has nothing more to say about the range that the fix was suggested for, though it may still say
something about the other one. `spacing_fixes_settle` says so, and of any range of a text.
-/
namespace JsxCheck

open Guarded (Clear)

variable {doc : Document} {f : Fix} {t : Source} {d : Diagnostic} {usage : Usage}

/-- A diagnostic says that the range between two tokens is not as it is asked for, with fixes for that. -/
structure Diagnostic.Reports (d : Diagnostic) (doc : Document) (a b : Span) (usage : Usage)
    (message : Usage → String) : Prop where
  message_eq : d.message = message usage
  wrong : (whitespaceGap doc.source doc.comments a.stop b.start).isSome = (usage == .never)
  settles : ∀ f ∈ d.fixes, Settles doc a b usage f

/-- Once a fix is made, the range between the tokens is not reported again, and what is reported of
another range is told in another message. -/
theorem Diagnostic.Reports.exists_settled {a b : Span} {message other : Usage → String}
    (reports : d.Reports doc a b usage message) (arranged : doc.source.Arranged doc.comments)
    (beside : doc.Beside a b) (fix : f ∈ d.fixes) (differ : message usage ≠ other usage) :
    ∃ t, f.Made doc.source t ∧ f.Leaves doc t ∧ ∀ later : Diagnostic,
      later.Reports (doc.fixed f t) (f.carry a) (f.carry b) usage message ∨
        later.message = other usage → later.message ≠ d.message := by
  have settles := reports.settles f fix
  obtain ⟨t, made⟩ := Fix.exists_made (settles.sliceable beside)
  refine ⟨t, made, settles.leaves beside arranged made, fun later again same => ?_⟩
  rcases again with again | elsewhere
  · have both := (settles.isSome_whitespaceGap beside arranged made).symm.trans again.wrong
    revert both
    cases usage <;> decide
  · exact differ (reports.message_eq.symm.trans (same.symm.trans elsewhere))

namespace Rule

/-! ### Space in braces -/

namespace BraceSpacing

/-- Tokens once a fix beside them is made. -/
def Tokens.carried (t : Tokens) (f : Fix) : Tokens :=
  ⟨f.carry t.first, f.carry t.second, f.carry t.secondToLast, f.carry t.last⟩

def leadingMessage : Usage → String
  | .always => "A space is required after \x7b"
  | .never => "There should be no space after \x7b"

def trailingMessage : Usage → String
  | .always => "A space is required before \x7d"
  | .never => "There should be no space before \x7d"

theorem leadingMessage_ne (usage : Usage) : leadingMessage usage ≠ trailingMessage usage := by
  cases usage <;> decide

variable {options : SpacingOptions} {tokens : Tokens}

theorem reports_of_mem_check (said : d ∈ check options doc tokens) :
    ∃ usage, options.spacing = some usage ∧
      (d.Reports doc tokens.first tokens.second usage leadingMessage ∨
        d.Reports doc tokens.secondToLast tokens.last usage trailingMessage) := by
  have only : ∀ {f g : Fix} {s m}, f ∈ (warning s m [g]).fixes → f = g :=
    fun fix => List.mem_singleton.mp fix
  unfold check at said
  split at said
  · rename_i set
    refine ⟨.always, set, (List.mem_append.mp said).imp (fun said => ?_) (fun said => ?_)⟩
    · split at said
      · rename_i none
        obtain rfl := List.mem_singleton.mp said
        refine ⟨rfl, ?_, fun f fix => by obtain rfl := only fix; exact .behind⟩
        exact Option.isSome_eq_false_iff.mpr none
      · cases said
    · split at said
      · rename_i none
        obtain rfl := List.mem_singleton.mp said
        refine ⟨rfl, ?_, fun f fix => by obtain rfl := only fix; exact .inFront⟩
        exact Option.isSome_eq_false_iff.mpr none
      · cases said
  · rename_i set
    refine ⟨.never, set, (mem_forbidden_iff.mp said).imp ?_ ?_⟩
    · rintro ⟨gap, found, _, rfl⟩
      exact ⟨rfl, Option.isSome_of_mem found, fun f fix => by
        obtain rfl := only fix
        exact .close found⟩
    · rintro ⟨gap, found, _, rfl⟩
      refine ⟨rfl, Option.isSome_of_mem found, fun f fix => ?_⟩
      by_cases alone : tokens.first = tokens.secondToLast
      · rw [if_pos alone] at fix
        cases fix
      · rw [if_neg alone] at fix
        obtain rfl := only fix
        exact .close found
  · cases said

/-- Once a fix is made, the diagnostic that suggested it is not issued again. -/
theorem check_settled (arranged : doc.source.Arranged doc.comments)
    (front : doc.Beside tokens.first tokens.second) (back : doc.Beside tokens.secondToLast tokens.last)
    (said : d ∈ check options doc tokens) (fix : f ∈ d.fixes) :
    ∃ t, f.Leaves doc t ∧ ∀ later ∈ check options (doc.fixed f t) (tokens.carried f),
      later.message ≠ d.message := by
  obtain ⟨usage, set, sides⟩ := reports_of_mem_check said
  have again : ∀ {t later}, later ∈ check options (doc.fixed f t) (tokens.carried f) →
      later.Reports (doc.fixed f t) (f.carry tokens.first) (f.carry tokens.second) usage
          leadingMessage ∨
        later.Reports (doc.fixed f t) (f.carry tokens.secondToLast) (f.carry tokens.last) usage
          trailingMessage := by
    intro t later said
    obtain ⟨usage', set', sides⟩ := reports_of_mem_check said
    obtain rfl : usage = usage' := Option.some.inj (set.symm.trans set')
    exact sides
  rcases sides with reports | reports
  · obtain ⟨t, _, leaves, silent⟩ :=
      reports.exists_settled arranged front fix (leadingMessage_ne usage)
    exact ⟨t, leaves, fun later said => silent later ((again said).imp_right (·.message_eq))⟩
  · obtain ⟨t, _, leaves, silent⟩ :=
      reports.exists_settled arranged back fix (leadingMessage_ne usage).symm
    exact ⟨t, leaves, fun later said => silent later ((again said).symm.imp_right (·.message_eq))⟩

end BraceSpacing

/-! ### Space around `=` -/

namespace EqualsSpacing

def beforeMessage : Usage → String
  | .always => "A space is required before '='"
  | .never => "There should be no space before '='"

def afterMessage : Usage → String
  | .always => "A space is required after '='"
  | .never => "There should be no space after '='"

theorem beforeMessage_ne (usage : Usage) : beforeMessage usage ≠ afterMessage usage := by
  cases usage <;> decide

theorem reports_of_mem_around {name value : Span} {equals : Nat}
    (said : d ∈ around usage doc name.stop equals value.start) :
    d.Reports doc name ⟨equals, equals + 1⟩ usage beforeMessage ∨
      d.Reports doc ⟨equals, equals + 1⟩ value usage afterMessage := by
  have only : ∀ {f g : Fix} {s m}, f ∈ (warning s m g).fixes → f = g :=
    fun fix => List.mem_singleton.mp fix
  cases usage with
  | always =>
    refine (List.mem_append.mp said).imp (fun said => ?_) (fun said => ?_)
    · split at said
      · rename_i none
        obtain rfl := List.mem_singleton.mp said
        refine ⟨rfl, ?_, fun f fix => by obtain rfl := only fix; exact .behind⟩
        exact Option.isSome_eq_false_iff.mpr none
      · cases said
    · split at said
      · rename_i none
        obtain rfl := List.mem_singleton.mp said
        refine ⟨rfl, ?_, fun f fix => by obtain rfl := only fix; exact .behind⟩
        exact Option.isSome_eq_false_iff.mpr none
      · cases said
  | never =>
    refine (List.mem_append.mp said).imp (fun said => ?_) (fun said => ?_)
    · obtain ⟨gap, found, rfl⟩ := List.mem_map.mp said
      have found := Option.mem_toList.mp found
      exact ⟨rfl, Option.isSome_of_mem found, fun f fix => by
        obtain rfl := only fix
        exact .close found⟩
    · obtain ⟨gap, found, rfl⟩ := List.mem_map.mp said
      have found := Option.mem_toList.mp found
      exact ⟨rfl, Option.isSome_of_mem found, fun f fix => by
        obtain rfl := only fix
        exact .close found⟩

/-- The name and the value of an attribute are where those of another one are once a fix is made. -/
def Carries (f : Fix) (a b : Attribute) : Prop :=
  b.nameSpan = f.carry a.nameSpan ∧
    b.value.map Node.span = a.value.map fun value => f.carry value.span

section Found

variable {name value : Span} {equals : Nat} (beside : doc.Beside name value)
  (found : findToken doc.source doc.comments name.stop value.start "=" = some equals)

include beside found

theorem beside_equals : doc.Beside name ⟨equals, equals + 1⟩ ∧ doc.Beside ⟨equals, equals + 1⟩ value := by
  obtain ⟨range, ⟨low, high⟩, here, outside, _⟩ := findToken_eq_some_iff.mp found
  have size : ("=" : String).utf8ByteSize = 1 := by decide
  rw [size] at high
  have byte : doc.source.byte? equals = some 61 :=
    (Source.hasAt_iff_byte? size (by decide)).mp here
  obtain ⟨starts, stops⟩ := Source.isBoundary_of_byte? byte (by decide)
  refine ⟨⟨beside.filled, ⟨low, range.starts, starts⟩, beside.clearBehind, fun c listed => ?_⟩,
    Nat.lt_succ_self _, ⟨high, stops, range.stops⟩, fun c listed => ?_, beside.clearInFront⟩
  · have free := outside c listed
    dsimp only
    omega
  · have free := outside c listed
    dsimp only
    omega

/-- The `=` is found again once the range on one side of it is settled. -/
theorem findToken_carried (arranged : doc.source.Arranged doc.comments) {p q : Span}
    (settles : Settles doc p q usage f) (apart : doc.Beside p q)
    (inside : name.stop ≤ p.stop ∧ q.start ≤ value.start)
    (side : equals + 1 ≤ p.stop ∨ q.start ≤ equals) (made : f.Made doc.source t) :
    findToken t (f.carryComments doc.comments) (f.carry name).stop (f.carry value).start "=" =
        some (f.carry ⟨equals, equals + 1⟩).start ∧
      f.carry ⟨equals, equals + 1⟩ =
        ⟨(f.carry ⟨equals, equals + 1⟩).start, (f.carry ⟨equals, equals + 1⟩).start + 1⟩ := by
  obtain ⟨low, order, high⟩ := settles.between apart
  have filled := beside.filled
  have width : f.width = f.span.stop - f.span.start := rfl
  have reach : f.CarriesTo equals (f.carry ⟨equals, equals + 1⟩).start ∧
      f.carry ⟨equals, equals + 1⟩ =
        ⟨(f.carry ⟨equals, equals + 1⟩).start, (f.carry ⟨equals, equals + 1⟩).start + 1⟩ := by
    rcases side with behind | inFront
    · rw [Fix.carry_of_lt (by dsimp only; omega)]
      exact ⟨Or.inl ⟨by omega, rfl⟩, rfl⟩
    · rw [Fix.carry_of_le (by dsimp only; omega)]
      refine ⟨Or.inr ⟨by omega, rfl⟩, ?_⟩
      rw [Span.mk.injEq]
      dsimp only
      omega
  have stays : f.carry name = name := Fix.carry_of_lt (by omega)
  have moves : f.carry value =
    ⟨value.start + f.bytes.length - f.width, value.stop + f.bytes.length - f.width⟩ :=
      Fix.carry_of_le (by omega)
  refine ⟨?_, reach.2⟩
  rw [stays, moves]
  exact made.findToken_equals order arranged (settles.parts apart arranged) (settles.rewrites arranged)
    found ⟨by omega, by omega⟩ reach.1 fun k => settles.exists_comment arranged made

end Found

theorem ofAttribute_eq_around {a : Attribute} {value : Node} {equals : Nat} (given : a.value = some value)
    (found : findToken doc.source doc.comments a.nameSpan.stop value.span.start "=" = some equals) :
    ofAttribute usage doc a = around usage doc a.nameSpan.stop equals value.span.start := by
  simp only [ofAttribute, given, found]

/-- Once a fix is made, the diagnostic that suggested it is not issued again. -/
theorem ofAttribute_settled (arranged : doc.source.Arranged doc.comments) {a : Attribute}
    (beside : ∀ value ∈ a.value, doc.Beside a.nameSpan value.span)
    (said : d ∈ ofAttribute usage doc a) (fix : f ∈ d.fixes) :
    ∃ t, f.Leaves doc t ∧ ∀ b, Carries f a b → ∀ later ∈ ofAttribute usage (doc.fixed f t) b,
      later.message ≠ d.message := by
  obtain ⟨value, given, equals, found⟩ : ∃ value, a.value = some value ∧ ∃ equals,
      findToken doc.source doc.comments a.nameSpan.stop value.span.start "=" = some equals := by
    unfold ofAttribute at said
    split at said
    · cases said
    · rename_i value given
      split at said
      · cases said
      · rename_i equals found
        exact ⟨value, given, equals, found⟩
  rw [ofAttribute_eq_around given found] at said
  have whole := beside value given
  obtain ⟨front, back⟩ := beside_equals whole found
  have again : ∀ {p q t}, Settles doc p q usage f → doc.Beside p q →
      (a.nameSpan.stop ≤ p.stop ∧ q.start ≤ value.span.start) →
      (equals + 1 ≤ p.stop ∨ q.start ≤ equals) → f.Made doc.source t →
      ∀ b, Carries f a b → ∀ later ∈ ofAttribute usage (doc.fixed f t) b,
        later.Reports (doc.fixed f t) (f.carry a.nameSpan) (f.carry ⟨equals, equals + 1⟩) usage
            beforeMessage ∨
          later.Reports (doc.fixed f t) (f.carry ⟨equals, equals + 1⟩) (f.carry value.span) usage
            afterMessage := by
    intro p q t settles apart inside side made b carries later said
    obtain ⟨found', shape⟩ := findToken_carried whole found arranged settles apart inside side made
    obtain ⟨name, values⟩ := carries
    rw [given, Option.map_some, Option.map_eq_some_iff] at values
    obtain ⟨value', given', moved⟩ := values
    rw [← name, ← moved] at found'
    have same : ofAttribute usage (doc.fixed f t) b = around usage (doc.fixed f t) b.nameSpan.stop
        (f.carry ⟨equals, equals + 1⟩).start value'.span.start :=
      ofAttribute_eq_around given' found'
    rw [same, name, moved] at said
    rw [shape]
    exact reports_of_mem_around said
  have low : a.nameSpan.stop ≤ equals := front.range.ordered
  have high : equals + 1 ≤ value.span.start := back.range.ordered
  rcases reports_of_mem_around said with reports | reports
  · obtain ⟨t, made, leaves, silent⟩ :=
      reports.exists_settled arranged front fix (beforeMessage_ne usage)
    have sides := again (reports.settles f fix) front ⟨Nat.le_refl _, Nat.le_of_succ_le high⟩
      (Or.inr (Nat.le_refl _)) made
    exact ⟨t, leaves, fun b carries later said =>
      silent later ((sides b carries later said).imp_right (·.message_eq))⟩
  · obtain ⟨t, made, leaves, silent⟩ :=
      reports.exists_settled arranged back fix (beforeMessage_ne usage).symm
    have sides := again (reports.settles f fix) back ⟨Nat.le_succ_of_le low, Nat.le_refl _⟩
      (Or.inl (Nat.le_refl _)) made
    exact ⟨t, leaves, fun b carries later said =>
      silent later ((sides b carries later said).symm.imp_right (·.message_eq))⟩

end EqualsSpacing

/-! ### All spacing -/

/-- Where no comment reaches across an end of a range, its gap is closed once only the comments in it are
left, and a space at either end opens one. So a fix of the space in braces or around `=` settles what it
was suggested for. -/
theorem spacing_fixes_settle (doc : Document) (arranged : doc.source.Arranged doc.comments) :
    (∀ start stop, Clear doc.comments start → Clear doc.comments stop →
      (∀ gap, whitespaceGap doc.source doc.comments start stop = some gap →
        gap.fix.span = ⟨start, stop⟩ ∧ ∃ t, gap.fix.Leaves doc t ∧
          whitespaceGap t (gap.fix.carryComments doc.comments) start
            (start + gap.comments.utf8ByteSize) = none) ∧
      (doc.source.Sliceable ⟨start, stop⟩ → ∀ i, i = start ∨ i = stop →
        ∃ t, (Fix.insert i " ").Leaves doc t ∧
          (whitespaceGap t ((Fix.insert i " ").carryComments doc.comments) start
            (stop + 1)).isSome = true)) ∧
    (∀ options tokens, doc.Beside tokens.first tokens.second →
      doc.Beside tokens.secondToLast tokens.last →
      ∀ d ∈ BraceSpacing.check options doc tokens, ∀ f ∈ d.fixes, ∃ t, f.Leaves doc t ∧
        ∀ later ∈ BraceSpacing.check options (doc.fixed f t) (tokens.carried f),
          later.message ≠ d.message) ∧
    ∀ usage (a : Attribute), (∀ value ∈ a.value, doc.Beside a.nameSpan value.span) →
      ∀ d ∈ EqualsSpacing.ofAttribute usage doc a, ∀ f ∈ d.fixes, ∃ t, f.Leaves doc t ∧
        ∀ b, EqualsSpacing.Carries f a b → ∀ later ∈ EqualsSpacing.ofAttribute usage (doc.fixed f t) b,
          later.message ≠ d.message := by
  refine ⟨fun start stop starts stops => ⟨fun gap found => ⟨span_fix found, ?_⟩, ?_⟩,
    fun options tokens front back d said f fix => BraceSpacing.check_settled arranged front back said fix,
    fun usage a beside d said f fix => EqualsSpacing.ofAttribute_settled arranged beside said fix⟩
  · have sliceable : doc.source.Sliceable gap.fix.span := sliceable_of_whitespaceGap found
    obtain ⟨t, made⟩ := Fix.exists_made sliceable
    have parts : gap.fix.Parts doc.comments :=
      parts_of_clear arranged (by rwa [span_fix found]) (by rwa [span_fix found])
    have width : gap.comments.utf8ByteSize = gap.fix.bytes.length := Source.size_eq ⟨gap.comments⟩
    refine ⟨t, made.leaves arranged sliceable.ordered parts (rewrites_fix found), ?_⟩
    rw [width]
    exact whitespaceGap_eq_none_of_fix arranged found starts stops made
  · intro sliceable i atEnd
    have boundary : doc.source.isBoundary i = true ∧ Clear doc.comments i := by
      rcases atEnd with rfl | rfl
      · exact ⟨sliceable.starts, starts⟩
      · exact ⟨sliceable.stops, stops⟩
    obtain ⟨t, made⟩ := Fix.exists_made (f := .insert i " ") (Source.sliceable_point boundary.1)
    have parts : (Fix.insert i " ").Parts doc.comments :=
      parts_of_clear arranged boundary.2 boundary.2
    exact ⟨t, made.leaves arranged (Nat.le_refl i) parts (rewrites_insert arranged i " "),
      whitespaceGap_isSome_of_insert arranged sliceable starts stops atEnd made⟩

/-- A comment and space in braces, and space in front of `=`. -/
def spacedText : String := "<a b ={ /* c */ a } />;"

theorem spacing_fixes_settle_of_spacedText :
    let doc := Document.ofText spacedText .tsx none [⟨8, 15⟩]
    let tokens : BraceSpacing.Tokens := ⟨⟨6, 7⟩, ⟨16, 17⟩, ⟨16, 17⟩, ⟨18, 19⟩⟩
    let written : Attribute := ⟨⟨3, 19⟩, "b", ⟨3, 4⟩, some (.mk .jsxContainer ⟨6, 19⟩ [])⟩
    doc.source.Arranged doc.comments ∧
      (∃ gap, whitespaceGap doc.source doc.comments 7 16 = some gap ∧ gap.comments = "/* c */" ∧
        ∃ t, gap.fix.Leaves doc t ∧
          whitespaceGap t (gap.fix.carryComments doc.comments) 7 14 = none) ∧
      (∃ t, (Fix.insert 4 " ").Leaves doc t ∧
        (whitespaceGap t ((Fix.insert 4 " ").carryComments doc.comments) 4 6).isSome = true) ∧
      (∃ d ∈ BraceSpacing.check ⟨some .never⟩ doc tokens, ∃ f ∈ d.fixes, ∃ t, f.Leaves doc t ∧
        ∀ later ∈ BraceSpacing.check ⟨some .never⟩ (doc.fixed f t) (tokens.carried f),
          later.message ≠ d.message) ∧
      ∃ d ∈ EqualsSpacing.ofAttribute .never doc written, ∃ f ∈ d.fixes, ∃ t, f.Leaves doc t ∧
        ∀ b, EqualsSpacing.Carries f written b →
          ∀ later ∈ EqualsSpacing.ofAttribute .never (doc.fixed f t) b,
            later.message ≠ d.message := by
  intro doc tokens written
  have sliceable : ∀ span ∈ [⟨8, 15⟩, ⟨4, 5⟩, ⟨4, 6⟩, ⟨7, 16⟩, ⟨17, 18⟩], doc.source.Sliceable span := by
    simp only [Source.sliceable_iff]
    decide +kernel
  have arranged : doc.source.Arranged doc.comments :=
    ⟨by decide, fun c listed => sliceable c (by
      obtain rfl := List.mem_singleton.mp listed
      decide), by decide⟩
  have leading : doc.Beside tokens.first tokens.second :=
    ⟨by decide, sliceable _ (by decide), by decide, by decide⟩
  have trailing : doc.Beside tokens.secondToLast tokens.last :=
    ⟨by decide, sliceable _ (by decide), by decide, by decide⟩
  have valued : ∀ value ∈ written.value, doc.Beside written.nameSpan value.span := by
    rintro value given
    obtain rfl := Option.some.inj given
    exact ⟨by decide, sliceable _ (by decide), by decide, by decide⟩
  obtain ⟨ranges, braces, equals⟩ := spacing_fixes_settle doc arranged
  have gapped : whitespaceGap doc.source doc.comments 7 16 = some ⟨⟨7, 16⟩, "/* c */"⟩ := by
    decide +kernel
  have braced : ∃ d ∈ BraceSpacing.check ⟨some .never⟩ doc tokens, d.fixes.isEmpty = false := by
    decide +kernel
  have introduced : ∃ d ∈ EqualsSpacing.ofAttribute .never doc written, d.fixes.isEmpty = false := by
    decide +kernel
  obtain ⟨d, said, filled⟩ := braced
  obtain ⟨d', said', filled'⟩ := introduced
  obtain ⟨f, fix⟩ := List.exists_mem_of_ne_nil _ (List.isEmpty_eq_false_iff.mp filled)
  obtain ⟨f', fix'⟩ := List.exists_mem_of_ne_nil _ (List.isEmpty_eq_false_iff.mp filled')
  exact ⟨arranged,
    ⟨_, gapped, rfl, ((ranges 7 16 (by decide) (by decide)).1 _ gapped).2⟩,
    (ranges 4 5 (by decide) (by decide)).2 (sliceable _ (by decide)) 4 (Or.inl rfl),
    ⟨d, said, f, fix, braces _ tokens leading trailing d said f fix⟩,
    ⟨d', said', f', fix', equals _ written valued d' said' f' fix'⟩⟩

end Rule

end JsxCheck
