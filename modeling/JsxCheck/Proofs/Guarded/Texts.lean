import JsxCheck.Proofs.Guarded.Fault
import JsxCheck.Proofs.Rule.Runs
import JsxCheck.Rule.Components.PropInterfaces
import JsxCheck.Rule.Layout.NonBreakingSpace

/-!
The rules that compute with offsets in texts of their own: the runs of `&nbsp;` in a text between tags,
and the name of a component in a path. Every step that may stop is taken, and none stops.
-/
namespace JsxCheck.Guarded

/-! ### Runs of entities -/

section Runs
open Rule.NonBreakingSpace

/-- Joins entities that touch to runs, the first of which has begun. -/
def joinRuns (start count : Nat) : List Nat → Except Fault (List (Nat × Nat))
  | [] => .ok [(start, count)]
  | offset :: rest => do
    if (← add start (← mul count entity.utf8ByteSize)) = offset then
      joinRuns start (← add count 1) rest
    else return (start, count) :: (← joinRuns offset 1 rest)

def runsOf (text : String) : Except Fault (List (Nat × Nat)) :=
  match (Source.mk text).occurrencesFrom entity (text.utf8ByteSize + 1) 0 with
  | [] => .ok []
  | offset :: rest => joinRuns offset 1 rest

/-- A run in front of others, joined with the first of them when they touch. -/
def prepend (start count : Nat) : List (Nat × Nat) → List (Nat × Nat)
  | [] => [(start, count)]
  | (next, more) :: rest =>
    if next = start + count * entity.utf8ByteSize then (start, count + more) :: rest
    else (start, count) :: (next, more) :: rest

theorem runs_cons (offset : Nat) (rest : List Nat) :
    runs (offset :: rest) = prepend offset 1 (runs rest) := by
  rw [runs]
  cases runs rest with
  | nil => rfl
  | cons run more => rw [prepend, Nat.one_mul, Nat.add_comm 1]

theorem prepend_prepend_of_touching {start count : Nat} (later : List (Nat × Nat)) :
    prepend start count (prepend (start + count * entity.utf8ByteSize) 1 later) =
      prepend start (count + 1) later := by
  have further : start + count * entity.utf8ByteSize + 1 * entity.utf8ByteSize =
      start + (count + 1) * entity.utf8ByteSize := by rw [Nat.add_mul, Nat.add_assoc]
  cases later with
  | nil => simp only [prepend, if_true]
  | cons run rest =>
    rw [prepend, further, prepend]
    split
    · rw [prepend, if_pos rfl, Nat.add_assoc]
    · rw [prepend, if_pos rfl]

theorem prepend_prepend_of_apart {start count offset : Nat}
    (apart : start + count * entity.utf8ByteSize ≠ offset) (later : List (Nat × Nat)) :
    prepend start count (prepend offset 1 later) = (start, count) :: prepend offset 1 later := by
  cases later with
  | nil => rw [prepend, prepend, if_neg (Ne.symm apart)]
  | cons run rest =>
    rw [prepend]
    split <;> rw [prepend, if_neg (Ne.symm apart)]

/-- A run ends where its last entity ends, so it is never longer than the text. -/
theorem joinRuns_ok {bound : Nat} (small : bound < 2 ^ 32) {offsets : List Nat}
    (inside : ∀ offset ∈ offsets, offset + entity.utf8ByteSize ≤ bound) {start count : Nat}
    (begun : start + count * entity.utf8ByteSize ≤ bound) :
    joinRuns start count offsets = .ok (prepend start count (runs offsets)) := by
  have six : entity.utf8ByteSize = 6 := by decide
  induction offsets generalizing start count with
  | nil => rfl
  | cons offset rest ih =>
    have here := inside offset List.mem_cons_self
    have later := fun o member => inside o (List.mem_cons_of_mem offset member)
    have narrow : count ≤ count * entity.utf8ByteSize := Nat.le_mul_of_pos_right _ (by omega)
    rw [joinRuns, mul_ok (by omega), ok_bind, add_ok (by omega), ok_bind, runs_cons]
    split
    · rename_i touching
      rw [add_ok (by omega), ok_bind, ih later (by rw [Nat.add_mul]; omega), ← touching,
        prepend_prepend_of_touching]
    · rename_i apart
      rw [ih later (by omega), prepend_prepend_of_apart apart]
      rfl

theorem runsOf_ok {text : String} (small : text.utf8ByteSize < 2 ^ 32) :
    runsOf text = .ok (Rule.NonBreakingSpace.runsOf text) := by
  have inside : ∀ offset ∈ (Source.mk text).occurrencesFrom entity (text.utf8ByteSize + 1) 0,
      offset + entity.utf8ByteSize ≤ text.utf8ByteSize := fun offset member =>
    (Source.occurrencesFrom_le member).2.1
  unfold runsOf Rule.NonBreakingSpace.runsOf
  generalize (Source.mk text).occurrencesFrom entity (text.utf8ByteSize + 1) 0 = offsets at inside ⊢
  cases offsets with
  | nil => rfl
  | cons offset rest =>
    dsimp only
    rw [runs_cons]
    exact joinRuns_ok small (fun o member => inside o (List.mem_cons_of_mem _ member))
      (by rw [Nat.one_mul]; exact inside offset List.mem_cons_self)

def whitespaceLiteral (doc : Document) (text : Span) : Except Fault (List Diagnostic) := do
  (← runsOf (doc.text text)).mapM fun (offset, count) => do
    let start ← add text.start offset
    let span : Span := ⟨start, ← add start (← mul count entity.utf8ByteSize)⟩
    return (RuleName.jsxWhitespaceLiteral.warning span
      "Expected '\x7b\" \"\x7d' instead of '&nbsp;' in JSX markup").addFix
        ⟨span, spaces count, none⟩

theorem whitespaceLiteral_ok {doc : Document} (small : doc.source.size < 2 ^ 32) {text : Span}
    (sliceable : doc.source.Sliceable text) :
    whitespaceLiteral doc text = .ok (Rule.whitespaceLiteral doc text) := by
  have six : entity.utf8ByteSize = 6 := by decide
  have ordered := sliceable.ordered
  have bounded := sliceable.bounded
  have short : (doc.text text).utf8ByteSize ≤ text.width := doc.source.size_slice_le text
  rw [Span.width] at short
  rw [whitespaceLiteral, runsOf_ok (by omega), ok_bind]
  refine mapM_ok fun run member => ?_
  have room := ((runsOf_spec _).2 run member).2
  obtain ⟨offset, count⟩ := run
  dsimp only at room ⊢
  rw [add_ok (by omega), ok_bind, mul_ok (by omega), ok_bind, add_ok (by omega), ok_bind]
  rfl

end Runs

/-! ### Names of components -/

section ComponentName
open Rule.PropInterfaces

/-- The name without the first `tsx` behind a character and without that character, where the
characters from an offset on are given. -/
def dropExtensionFrom (name : Source) : List Char → (i : Nat) → Except Fault String
  | [], _ => .ok name.text
  | c :: rest, i => do
    let after := i + c.utf8Size
    if "tsx".toList.isPrefixOf (← cut name ⟨after, name.size⟩).toList then
      return (← cut name ⟨0, i⟩) ++ (← cut name ⟨after + 3, name.size⟩)
    else dropExtensionFrom name rest after

def componentName (path : String) : Except Fault String :=
  let name := String.ofList (path.toList.reverse.takeWhile (· != '/')).reverse
  dropExtensionFrom ⟨name⟩ name.toList 0

theorem cut_split {s : Source} {l m r : List Char} (split : s.text.toList = l ++ m ++ r)
    {start stop : Nat} (starts : String.utf8Len l = start)
    (stops : String.utf8Len l + String.utf8Len m = stop) :
    cut s ⟨start, stop⟩ = .ok (String.ofList m) := by
  subst starts stops
  exact cut_eq_of_slice? (Source.slice?_of_split split)

/-- Characters are passed as a whole, so the name is cut between characters. -/
theorem dropExtensionFrom_ok {name : Source} {front rest : List Char}
    (split : name.text.toList = front ++ rest) :
    dropExtensionFrom name rest (String.utf8Len front) =
      .ok (String.ofList (front ++ dropExtension rest)) := by
  have size : name.size = String.utf8Len front + String.utf8Len rest := by
    rw [Source.size_eq, Source.bytes, Utf8.length_flatMap, split, String.utf8Len_append]
  induction rest generalizing front with
  | nil => rw [dropExtensionFrom, dropExtension, ← split, String.ofList_toList]
  | cons c rest ih =>
    rw [String.utf8Len_cons] at size
    have passed : String.utf8Len (front ++ [c]) = String.utf8Len front + c.utf8Size := by
      rw [String.utf8Len_append, String.utf8Len_cons, String.utf8Len_nil, Nat.zero_add]
    have tail : cut name ⟨String.utf8Len front + c.utf8Size, name.size⟩ = .ok (String.ofList rest) :=
      cut_split (l := front ++ [c]) (r := []) (by rw [split]; simp) passed (by omega)
    rw [dropExtensionFrom, tail, ok_bind, @String.toList_ofList rest]
    split
    · rename_i stands
      obtain ⟨after, rfl⟩ := List.isPrefixOf_iff_prefix.mp stands
      have shorter : String.utf8Len (front ++ c :: "tsx".toList) =
          String.utf8Len front + c.utf8Size + 3 := by
        rw [String.utf8Len_append, String.utf8Len_cons, Nat.add_assoc, Nat.add_comm c.utf8Size]
        rfl
      have back : String.utf8Len (front ++ c :: "tsx".toList) + String.utf8Len after = name.size := by
        rw [String.utf8Len_append, String.utf8Len_cons]
        rw [String.utf8Len_append] at size
        omega
      have head : cut name ⟨0, String.utf8Len front⟩ = .ok (String.ofList front) :=
        cut_split (l := []) split rfl (Nat.zero_add _)
      rw [head, ok_bind,
        cut_split (l := front ++ c :: "tsx".toList) (r := []) (by rw [split]; simp) shorter back,
        ok_bind, pure_eq_ok, ← String.ofList_append]
      rfl
    · rename_i absent
      have kept : dropExtension (c :: rest) = c :: dropExtension rest := by
        rw [dropExtension]
        rintro after rfl
        exact absent (List.isPrefixOf_iff_prefix.mpr ⟨after, rfl⟩)
      rw [← passed, ih (by rw [split, List.append_assoc]; rfl) (by omega), kept, List.append_assoc]
      rfl

theorem componentName_ok (path : String) :
    componentName path = .ok (Rule.PropInterfaces.componentName path) := by
  have whole : ∀ name : String,
      dropExtensionFrom ⟨name⟩ name.toList 0 = .ok (String.ofList (dropExtension name.toList)) :=
    fun name => @dropExtensionFrom_ok ⟨name⟩ [] name.toList (List.nil_append _).symm
  unfold componentName Rule.PropInterfaces.componentName
  dsimp only
  rw [whole, String.toList_ofList]

def namedPropInterface (doc : Document) (n : Node) : Except Fault (List Diagnostic) :=
  match n.interface?, doc.path with
  | some (name, _), some path => do
    if doc.dialect.isTsx then
      let expected := (← componentName path) ++ "Props"
      return if name != expected then
          [RuleName.jsxNamedPropInterface.warning n.span
            "interface name must be $\x7bcomponentName\x7dProps"]
        else []
    else return []
  | _, _ => .ok []

theorem namedPropInterface_ok (doc : Document) (n : Node) :
    namedPropInterface doc n = .ok (Rule.namedPropInterface doc n) := by
  unfold namedPropInterface Rule.namedPropInterface
  cases n.interface? with
  | none => rfl
  | some shape =>
    cases doc.path with
    | none => rfl
    | some path =>
      dsimp only
      rw [componentName_ok]
      cases doc.dialect.isTsx <;> rfl

end ComponentName

end JsxCheck.Guarded
