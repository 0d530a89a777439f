import JsxCheck.Source.Span

/-!
Source text addressed by byte.

Offsets count the bytes of the UTF-8 form. A slice exists only when both ends lie in the text and
neither splits a character.
-/
namespace JsxCheck

structure Source where
  text : String
  deriving Inhabited

namespace Source

/-- Length in bytes. -/
def size (s : Source) : Nat := s.text.utf8ByteSize

def byte? (s : Source) (i : Nat) : Option UInt8 :=
  if h : i < s.text.utf8ByteSize then some (s.text.getUTF8Byte ⟨i⟩ h) else none

/-- Bytes `10xxxxxx` continue a character begun earlier. -/
def isContinuation (b : UInt8) : Bool := 0x80 ≤ b && b < 0xC0

/-- No character is split at the offset. -/
def isBoundary (s : Source) (i : Nat) : Bool :=
  match s.byte? i with
  | some b => !isContinuation b
  | none => i == s.size

/-- The character that starts at an offset. -/
def char? (s : Source) (i : Nat) : Option Char :=
  if s.isBoundary i && i < s.size then some (String.Pos.Raw.get s.text ⟨i⟩) else none

/-- The character that ends at an offset. -/
def charBefore? (s : Source) (i : Nat) : Option Char :=
  if s.isBoundary i then
    (List.range 4).findSome? fun back => if back < i then s.char? (i - 1 - back) else none
  else none

/-- The text of a range, when its ends are in order, in the text and on character boundaries. -/
def slice? (s : Source) (start stop : Nat) : Option String :=
  if start ≤ stop && stop ≤ s.size && s.isBoundary start && s.isBoundary stop then
    some (String.Pos.Raw.extract s.text ⟨start⟩ ⟨stop⟩)
  else none

/-- The text under a span; a span that cannot be sliced has none. -/
def slice (s : Source) (span : Span) : String := (s.slice? span.start span.stop).getD ""

/-- The needle stands at the offset, byte for byte. -/
def hasAt (s : Source) (needle : String) (i : Nat) : Bool :=
  (List.range needle.utf8ByteSize).all fun k => s.byte? (i + k) == (Source.mk needle).byte? k

/-- The first of the `fuel` offsets from `i` on at which the needle stands. -/
def findFrom (s : Source) (needle : String) : (fuel : Nat) → (i : Nat) → Option Nat
  | 0, _ => none
  | fuel + 1, i => if s.hasAt needle i then some i else s.findFrom needle fuel (i + 1)

/-- The first occurrence of the needle that begins at or after `start` and ends by `stop`. -/
def find? (s : Source) (needle : String) (start stop : Nat) : Option Nat :=
  if start + needle.utf8ByteSize ≤ stop then
    s.findFrom needle (stop + 1 - (start + needle.utf8ByteSize)) start
  else none

/-- The occurrences of the needle from `i` on, none beginning inside another. -/
def occurrencesFrom (s : Source) (needle : String) : (fuel : Nat) → (i : Nat) → List Nat
  | 0, _ => []
  | fuel + 1, i =>
    match s.find? needle i s.size with
    | some hit => hit :: s.occurrencesFrom needle fuel (hit + needle.utf8ByteSize)
    | none => []

end Source

/-- One text stands somewhere in another. -/
def containsText (text needle : String) : Bool :=
  ((Source.mk text).find? needle 0 text.utf8ByteSize).isSome

def isMultilineText (text : String) : Bool := containsText text "\n"

end JsxCheck
