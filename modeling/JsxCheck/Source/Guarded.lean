import JsxCheck.Source.Document
import JsxCheck.Source.Gap

/-!
Lines, gaps and tokens, with every step on offsets that may stop.

Offsets are numbers of 32 bits, and a text is cut at offsets. A difference below zero, a sum that does
not fit, a cut outside of a text or inside of a character and an entry that a table does not have are
no values here: they stop the computation. The functions take the steps of the total ones in the order
in which they are taken.
-/
namespace JsxCheck.Guarded

/-- Why a computation stops. -/
inductive Fault where
  /-- The difference of two numbers is below zero. -/
  | underflow
  /-- A number does not fit into 32 bits. -/
  | overflow
  /-- A text is cut outside of it or inside of a character. -/
  | badCut
  /-- A table does not have the entry asked for. -/
  | noEntry
  /-- A search does not come to an end. -/
  | endless
  deriving DecidableEq, Repr

section Steps

variable {α : Type}

def sub (a b : Nat) : Except Fault Nat := if b ≤ a then .ok (a - b) else .error .underflow

def fit (n : Nat) : Except Fault Nat := if n < UInt32.size then .ok n else .error .overflow

def add (a b : Nat) : Except Fault Nat := fit (a + b)

def mul (a b : Nat) : Except Fault Nat := fit (a * b)

def cut (s : Source) (span : Span) : Except Fault String :=
  match s.slice? span.start span.stop with
  | some text => .ok text
  | none => .error .badCut

def entry (table : Array α) (i : Nat) : Except Fault α :=
  match table[i]? with
  | some a => .ok a
  | none => .error .noEntry

end Steps

/-! ### Lines -/

/-- One line start after each line feed among the `fuel` bytes from `i` on. -/
def startsFrom (s : Source) : (fuel : Nat) → (i : Nat) → Except Fault (List Nat)
  | 0, _ => .ok []
  | fuel + 1, i =>
    if s.byte? i == some 10 then do
      let start ← add i 1
      return start :: (← startsFrom s fuel (i + 1))
    else startsFrom s fuel (i + 1)

def lineIndex (s : Source) : Except Fault LineIndex := do
  return ⟨(0 :: (← startsFrom s s.size 0)).toArray⟩

/-- The line that holds an offset: bisection comes to the entry that is the offset, or to the place
where it would be inserted. -/
def line (x : LineIndex) (offset : Nat) : Except Fault Nat :=
  let above := x.countUpTo offset 0 x.lineCount
  if 0 < above ∧ x.lineStart (above - 1) = offset then .ok (above - 1) else sub above 1

def lineColumn (x : LineIndex) (offset : Nat) : Except Fault (Nat × Nat) := do
  let line ← line x offset
  let start ← entry x.starts line
  return (line, ← sub offset start)

def isMultiline (doc : Document) (span : Span) : Except Fault Bool := do
  return (← line doc.lines span.start) != (← line doc.lines span.stop)

/-! ### Gaps -/

/-- Widths added up, beginning with a sum. -/
def addWidths (sum : Nat) (spans : List Span) : Except Fault Nat :=
  spans.foldlM (fun sum c => do add sum (← sub c.stop c.start)) sum

def whitespaceGap (s : Source) (comments : List Span) (start stop : Nat) :
    Except Fault (Option Gap) :=
  if stop ≤ start then .ok none
  else if (s.slice? start stop).isNone then .ok none
  else do
    let inside := commentsWithin comments start stop
    let width ← addWidths 0 inside
    if (← sub stop start) > width then
      return some ⟨⟨start, stop⟩, String.join (← inside.mapM (cut s))⟩
    else return none

/-! ### Tokens -/

/-- The search for a token in a text that begins at an offset, from the byte with a number on. -/
def search (text : Source) (comments : List Span) (start : Nat) (needle : String) :
    (fuel : Nat) → (i : Nat) → Except Fault (Option Nat)
  | 0, _ => .error .endless
  | fuel + 1, i => do
    let rest ← cut text ⟨i, text.size⟩
    match (Source.mk rest).find? needle 0 rest.utf8ByteSize with
    | none => return none
    | some pos =>
      let hit ← add start (← add i pos)
      match comments.find? (·.contains hit) with
      | some comment => search text comments start needle fuel (← sub comment.stop start)
      | none => return some hit

/-- The search goes on from a place further on each time, so after as many steps as the text has places
it is behind the text, and the step from there is its last. -/
def findToken (s : Source) (comments : List Span) (start stop : Nat) (needle : String) :
    Except Fault (Option Nat) :=
  match s.slice? start stop with
  | none => .ok none
  | some text => search ⟨text⟩ comments start needle (text.utf8ByteSize + 2) 0

end JsxCheck.Guarded
