/-! Half-open ranges of byte offsets. -/
namespace JsxCheck

/-- The bytes from `start` up to, and not including, `stop`. -/
structure Span where
  start : Nat
  stop : Nat
  deriving DecidableEq, Inhabited, Repr

namespace Span

def width (s : Span) : Nat := s.stop - s.start

/-- A span of no bytes, where text is inserted and none replaced. -/
def isEmpty (s : Span) : Bool := s.start == s.stop

def contains (s : Span) (offset : Nat) : Bool := s.start ≤ offset && offset < s.stop

/-- The empty span in front of an offset. -/
def point (offset : Nat) : Span := ⟨offset, offset⟩

end Span

end JsxCheck
