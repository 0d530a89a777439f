/-!
Sets of characters given by ranges of code points.

A table is written as lines of text, `41-5a 61-7a aa`: hexadecimal code points or ranges, in increasing
order and with a blank between them. Membership is decided by bisection.
-/
namespace JsxCheck

/-- The value of a lower-case or upper-case hexadecimal digit. -/
def hexDigit? (c : Char) : Option Nat :=
  if '0' ≤ c ∧ c ≤ '9' then some (c.toNat - 48)
  else if 'a' ≤ c ∧ c ≤ 'f' then some (c.toNat - 87)
  else if 'A' ≤ c ∧ c ≤ 'F' then some (c.toNat - 55)
  else none

/-- The number that hexadecimal digits spell; other characters count as zero digits. -/
def hexNumber (digits : List Char) : Nat :=
  digits.foldl (fun n c => 16 * n + (hexDigit? c).getD 0) 0

/-- The pieces of a list between occurrences of a separator. -/
def splitOnChar (sep : Char) : List Char → List (List Char)
  | [] => [[]]
  | c :: rest =>
    if c = sep then [] :: splitOnChar sep rest
    else
      match splitOnChar sep rest with
      | [] => [[c]]
      | piece :: pieces => (c :: piece) :: pieces

/-- The entries of a table, which blanks separate. -/
def tableEntries (lines : List String) : List (List Char) :=
  (lines.flatMap fun line => splitOnChar ' ' line.toList).filter (!·.isEmpty)

/-- Ranges of code points, both ends included, in increasing order. -/
structure RangeTable where
  ranges : Array (Nat × Nat)
  deriving Inhabited

namespace RangeTable

/-- Reads one entry, `41-5a` or `aa`. -/
def readEntry (entry : List Char) : Nat × Nat :=
  match splitOnChar '-' entry with
  | [one] => (hexNumber one, hexNumber one)
  | low :: high :: _ => (hexNumber low, hexNumber high)
  | [] => (0, 0)

def ofLines (lines : List String) : RangeTable := ⟨((tableEntries lines).map readEntry).toArray⟩

/-- Number of ranges that start at or below `n`, given that it lies between `lo` and `hi`. -/
def countUpTo (t : RangeTable) (n lo hi : Nat) : Nat :=
  if lo < hi then
    let mid := (lo + hi) / 2
    if (t.ranges.getD mid (0, 0)).1 ≤ n then t.countUpTo n (mid + 1) hi
    else t.countUpTo n lo mid
  else lo
termination_by hi - lo

def contains (t : RangeTable) (n : Nat) : Bool :=
  match t.countUpTo n 0 t.ranges.size with
  | 0 => false
  | k + 1 => n ≤ (t.ranges.getD k (0, 0)).2

def containsChar (t : RangeTable) (c : Char) : Bool := t.contains c.toNat

end RangeTable

end JsxCheck
