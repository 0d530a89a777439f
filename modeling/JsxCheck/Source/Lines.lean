import JsxCheck.Source.Text

/-!
Lines and columns of byte offsets.

Both count from zero, columns count bytes, and only a line feed ends a line. The table of line
starts is sorted, so a line is found by bisection.
-/
namespace JsxCheck

/-- Offsets at which lines start, in increasing order; the first is zero. -/
structure LineIndex where
  starts : Array Nat
  deriving Inhabited

namespace LineIndex

/-- One line start after each line feed among the `fuel` bytes from `i` on. -/
def startsFrom (s : Source) : (fuel : Nat) → (i : Nat) → List Nat
  | 0, _ => []
  | fuel + 1, i =>
    if s.byte? i == some 10 then (i + 1) :: startsFrom s fuel (i + 1)
    else startsFrom s fuel (i + 1)

def ofSource (s : Source) : LineIndex := ⟨(0 :: startsFrom s s.size 0).toArray⟩

def lineCount (x : LineIndex) : Nat := x.starts.size

/-- Offset at which a line starts, zero for a line that does not exist. -/
def lineStart (x : LineIndex) (line : Nat) : Nat := x.starts.getD line 0

/-- Number of entries not above `offset`, given that it lies between `lo` and `hi`. -/
def countUpTo (x : LineIndex) (offset lo hi : Nat) : Nat :=
  if lo < hi then
    let mid := (lo + hi) / 2
    if x.lineStart mid ≤ offset then x.countUpTo offset (mid + 1) hi
    else x.countUpTo offset lo mid
  else lo
termination_by hi - lo

/-- The line that holds an offset; offsets past the end belong to the last line. -/
def line (x : LineIndex) (offset : Nat) : Nat := x.countUpTo offset 0 x.lineCount - 1

/-- Distance of an offset from the start of its line. -/
def column (x : LineIndex) (offset : Nat) : Nat := offset - x.lineStart (x.line offset)

/-- A space or a tab. -/
def isIndentByte (b : UInt8) : Bool := b == 32 || b == 9

/-- Number of spaces and tabs among the `fuel` bytes from `i` on, up to the first other byte. -/
def indentFrom (s : Source) : (fuel : Nat) → (i : Nat) → Nat
  | 0, _ => 0
  | fuel + 1, i => if (s.byte? i).any isIndentByte then indentFrom s fuel (i + 1) + 1 else 0

/-- Width of the spaces and tabs that open a line. -/
def indent (x : LineIndex) (s : Source) (line : Nat) : Nat := indentFrom s s.size (x.lineStart line)

end LineIndex

end JsxCheck
