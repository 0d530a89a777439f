import JsxCheck.Source.Text
import JsxCheck.Text.RangeTable

/-!
Escapes of string literals, templates and identifiers.

Each reader starts after the backslash and gives the characters the escape stands for together
with the offset after it.
-/
namespace JsxCheck.Grammar

/-- Up to `count` hexadecimal digits, with their number and the offset after them. -/
def readHexDigits (s : Source) : (count : Nat) → (i value : Nat) → Nat × Nat × Nat
  | 0, i, value => (0, i, value)
  | count + 1, i, value =>
    match (s.char? i).bind hexDigit? with
    | some d =>
      let (n, stop, total) := readHexDigits s count (i + 1) (16 * value + d)
      (n + 1, stop, total)
    | none => (0, i, value)

/-- Exactly `count` hexadecimal digits. -/
def readHex? (s : Source) (count i : Nat) : Option (Nat × Nat) :=
  let (n, stop, value) := readHexDigits s count i 0
  if n = count then some (value, stop) else none

/-- The code point of `u0041` or `u{41}`; `i` is the offset after the `u`. -/
def readCodePoint? (s : Source) (i : Nat) : Option (Nat × Nat) :=
  if s.char? i == some '{' then
    let (n, stop, value) := readHexDigits s s.size (i + 1) 0
    if n > 0 && value ≤ 0x10FFFF && s.char? stop == some '}' then some (value, stop + 1) else none
  else readHex? s 4 i

/-- A code point as a character; a lone surrogate has none and is replaced. -/
def charOfCode (n : Nat) : Char :=
  if 0xD800 ≤ n ∧ n < 0xE000 then '\uFFFD' else Char.ofNat n

/-- Reads a Unicode escape, joining the two halves of a surrogate pair. -/
def readUnicodeEscape? (s : Source) (i : Nat) : Option (Char × Nat) := do
  let (high, stop) ← readCodePoint? s i
  if 0xD800 ≤ high && high < 0xDC00 && s.hasAt "\\u" stop then
    match readCodePoint? s (stop + 2) with
    | some (low, after) =>
      if 0xDC00 ≤ low && low < 0xE000 then
        return (charOfCode (0x10000 + (high - 0xD800) * 0x400 + (low - 0xDC00)), after)
      else return (charOfCode high, stop)
    | none => return (charOfCode high, stop)
  else return (charOfCode high, stop)

def octalDigit? (c : Char) : Option Nat :=
  if '0' ≤ c ∧ c ≤ '7' then some (c.toNat - 48) else none

/-- Up to `count` further octal digits, for a value below 256. -/
def readOctal (s : Source) : (count : Nat) → (i value : Nat) → Nat × Nat
  | 0, i, value => (value, i)
  | count + 1, i, value =>
    match (s.char? i).bind octalDigit? with
    | some d => if 8 * value + d < 256 then readOctal s count (i + 1) (8 * value + d) else (value, i)
    | none => (value, i)

/-- Escapes of one letter. -/
def simpleEscape? : Char → Option Char
  | 'n' => some '\n'
  | 't' => some '\t'
  | 'r' => some '\r'
  | 'b' => some '\x08'
  | 'v' => some '\x0b'
  | 'f' => some '\x0c'
  | _ => none

/-- Reads any escape. Octal escapes are part of strings but not of templates. -/
def readEscape? (s : Source) (octal : Bool) (i : Nat) : Option (List Char × Nat) := do
  let c ← s.char? i
  let after := i + c.utf8Size
  match simpleEscape? c with
  | some e => return ([e], after)
  | none =>
    if c == 'x' then
      let (value, stop) ← readHex? s 2 after
      return ([Char.ofNat value], stop)
    else if c == 'u' then
      let (u, stop) ← readUnicodeEscape? s after
      return ([u], stop)
    else if c == '\r' then
      return ([], if s.char? after == some '\n' then after + 1 else after)
    else if c == '\n' || c.toNat == 0x2028 || c.toNat == 0x2029 then
      return ([], after)
    else if c.isDigit then
      if c == '0' && !((s.char? after).any Char.isDigit) then return ([Char.ofNat 0], after)
      else if !octal then none
      else
        match octalDigit? c with
        | some d =>
          let (value, stop) := readOctal s 2 after d
          return ([Char.ofNat value], stop)
        | none => return ([c], after)
    else return ([c], after)

end JsxCheck.Grammar
