import JsxCheck.Json.Value
import JsxCheck.Text.RangeTable

/-!
Reading JSON.

The grammar is strict. Values nest at most 127 levels deep, numbers must fit 64 bits, and an escape
of half a surrogate pair is refused.
-/
namespace JsxCheck.Json

def isSpace (c : Char) : Bool := c == ' ' || c == '\t' || c == '\n' || c == '\r'

def skipSpace (cs : List Char) : List Char := cs.dropWhile isSpace

/-- Deepest nesting of arrays and objects. -/
def maxDepth : Nat := 127

/-! ### Strings -/

/-- Four hexadecimal digits. -/
def readUnit? : List Char → Option (Nat × List Char)
  | a :: b :: c :: d :: rest =>
    match hexDigit? a, hexDigit? b, hexDigit? c, hexDigit? d with
    | some _, some _, some _, some _ => some (hexNumber [a, b, c, d], rest)
    | _, _, _, _ => none
  | _ => none

/-- The character behind `\u`, which two escapes may spell together. -/
def readUnicode? (cs : List Char) : Option (Char × List Char) := do
  let (high, rest) ← readUnit? cs
  if 0xDC00 ≤ high && high < 0xE000 then none
  else if 0xD800 ≤ high && high < 0xDC00 then
    match rest with
    | '\\' :: 'u' :: more =>
      let (low, rest) ← readUnit? more
      if 0xDC00 ≤ low && low < 0xE000 then
        return (Char.ofNat (0x10000 + (high - 0xD800) * 0x400 + (low - 0xDC00)), rest)
      else none
    | _ => none
  else return (Char.ofNat high, rest)

/-- Escapes of one character. -/
def plainEscape? : Char → Option Char
  | '"' => some '"'
  | '\\' => some '\\'
  | '/' => some '/'
  | 'b' => some '\x08'
  | 'f' => some '\x0c'
  | 'n' => some '\n'
  | 'r' => some '\r'
  | 't' => some '\t'
  | _ => none

/-- The value of a string from after its opening quote. -/
def readStringFrom? : (fuel : Nat) → (cs value : List Char) → Option (String × List Char)
  | 0, _, _ => none
  | _ + 1, [], _ => none
  | fuel + 1, c :: rest, value =>
    if c == '"' then some (String.ofList value.reverse, rest)
    else if c.toNat < 0x20 then none
    else if c == '\\' then
      match rest with
      | 'u' :: more =>
        match readUnicode? more with
        | some (u, rest) => readStringFrom? fuel rest (u :: value)
        | none => none
      | e :: rest =>
        match plainEscape? e with
        | some u => readStringFrom? fuel rest (u :: value)
        | none => none
      | [] => none
    else readStringFrom? fuel rest (c :: value)

/-! ### Numbers -/

def decimalNumber (digits : List Char) : Nat :=
  digits.foldl (fun n c => 10 * n + (c.toNat - 48)) 0

def readDigits? (cs : List Char) : Option (List Char × List Char) :=
  let digits := cs.takeWhile Char.isDigit
  if digits.isEmpty then none else some (digits, cs.dropWhile Char.isDigit)

/-- Digits behind a point, where they may stand. -/
def readFraction? : List Char → Option (List Char × List Char)
  | '.' :: rest => readDigits? rest
  | cs => some ([], cs)

/-- An exponent, where one may stand. -/
def readExponent? : List Char → Option (Option Int × List Char)
  | c :: rest =>
    if c == 'e' || c == 'E' then
      let (negative, rest) := match rest with
        | '-' :: more => (true, more)
        | '+' :: more => (false, more)
        | _ => (false, rest)
      match readDigits? rest with
      | some (digits, rest) =>
        let n : Int := decimalNumber digits
        some (some (if negative then -n else n), rest)
      | none => none
    else some (none, c :: rest)
  | [] => some (none, [])

/-- The digits before the point: no zero stands in front of another digit. -/
def readWhole? (cs : List Char) : Option (List Char × List Char) :=
  match cs with
  | '0' :: c :: rest => if c.isDigit then none else some (['0'], c :: rest)
  | _ => readDigits? cs

/-- A whole number is an integer when 64 bits hold it; a negative zero is no integer. -/
def numberOf (negative : Bool) (whole fraction : List Char) (exponent : Option Int) : Option Json :=
  let n := decimalNumber (whole ++ fraction)
  let isWhole := fraction.isEmpty && exponent.isNone
  if isWhole && !negative && n < Nat.pow 2 64 then some (.integer n)
  else if isWhole && negative && n ≠ 0 && n ≤ Nat.pow 2 63 then some (.integer (-n))
  else
    let d : Decimal := ⟨negative, n, exponent.getD 0 - fraction.length⟩
    if d.isOverflow then none else some (.decimal d)

def readNumber? (cs : List Char) : Option (Json × List Char) := do
  let (negative, cs) := match cs with
    | '-' :: rest => (true, rest)
    | _ => (false, cs)
  let (whole, cs) ← readWhole? cs
  let (fraction, cs) ← readFraction? cs
  let (exponent, cs) ← readExponent? cs
  return (← numberOf negative whole fraction exponent, cs)

/-! ### Values -/

def readWord? (word : String) (value : Json) (cs : List Char) : Option (Json × List Char) :=
  if word.toList.isPrefixOf cs then some (value, cs.drop word.length) else none

mutual

/-- One value, with blanks before it. -/
def readValue? : (fuel depth : Nat) → (cs : List Char) → Option (Json × List Char)
  | 0, _, _ => none
  | fuel + 1, depth, cs =>
    match skipSpace cs with
    | [] => none
    | c :: rest =>
      if c == '"' then (readStringFrom? (rest.length + 1) rest []).map fun r => (.string r.1, r.2)
      else if c == '[' then
        match depth with
        | 0 => none
        | depth + 1 =>
          match skipSpace rest with
          | ']' :: rest => some (.array [], rest)
          | _ => (readItems? fuel depth rest).map fun r => (.array r.1, r.2)
      else if c == '{' then
        match depth with
        | 0 => none
        | depth + 1 =>
          match skipSpace rest with
          | '}' :: rest => some (.object [], rest)
          | _ => (readEntries? fuel depth rest).map fun r => (ofFields r.1, r.2)
      else if c == 't' then readWord? "true" (.bool true) (c :: rest)
      else if c == 'f' then readWord? "false" (.bool false) (c :: rest)
      else if c == 'n' then readWord? "null" .null (c :: rest)
      else readNumber? (c :: rest)

/-- The items of an array and its closing bracket. -/
def readItems? : (fuel depth : Nat) → (cs : List Char) → Option (List Json × List Char)
  | 0, _, _ => none
  | fuel + 1, depth, cs =>
    match readValue? fuel depth cs with
    | none => none
    | some (item, rest) =>
      match skipSpace rest with
      | ',' :: rest => (readItems? fuel depth rest).map fun r => (item :: r.1, r.2)
      | ']' :: rest => some ([item], rest)
      | _ => none

/-- The entries of an object and its closing brace. -/
def readEntries? : (fuel depth : Nat) → (cs : List Char) → Option (List (String × Json) × List Char)
  | 0, _, _ => none
  | fuel + 1, depth, cs =>
    match skipSpace cs with
    | '"' :: rest =>
      match readStringFrom? (rest.length + 1) rest [] with
      | none => none
      | some (key, rest) =>
        match skipSpace rest with
        | ':' :: rest =>
          match readValue? fuel depth rest with
          | none => none
          | some (value, rest) =>
            match skipSpace rest with
            | ',' :: rest => (readEntries? fuel depth rest).map fun r => ((key, value) :: r.1, r.2)
            | '}' :: rest => some ([(key, value)], rest)
            | _ => none
        | _ => none
    | _ => none

end

/-- Reads a text that is one JSON value. Every step consumes a character or is followed by one that
does, which bounds the fuel. -/
def parse? (text : String) : Option Json :=
  let cs := text.toList
  match readValue? (2 * cs.length + 2) maxDepth cs with
  | some (value, rest) => if (skipSpace rest).isEmpty then some value else none
  | none => none

end JsxCheck.Json
