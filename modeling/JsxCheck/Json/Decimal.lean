/-!
Decimals as binary floating-point numbers of 64 bits, and back.

A decimal is rounded to the nearest representable value, a tie to the even one, in exact integer
arithmetic. The shortest text of a value is the first, by number of digits, among the decimals that
round to it, and of two of one length the nearer.
-/
namespace JsxCheck

/-- The number `digits * 10 ^ exponent`, or its negative. -/
structure Decimal where
  negative : Bool
  digits : Nat
  exponent : Int
  deriving DecidableEq, Inhabited

/-- A finite value `significand * 2 ^ exponent` with at most 53 significant bits. -/
structure Binary64 where
  significand : Nat
  exponent : Int
  deriving DecidableEq, Inhabited

namespace Binary64

/-- The quotient rounded to the nearest integer, a tie to the even one. -/
def roundDiv (num den : Nat) : Nat :=
  let q := num / den
  let twice := 2 * (num % den)
  if twice < den then q else if den < twice then q + 1 else if q % 2 = 0 then q else q + 1

/-- The fraction `num / den` divided by `2 ^ e`. -/
def scale (num den : Nat) (e : Int) : Nat × Nat :=
  if 0 ≤ e then (num, den * Nat.pow 2 e.toNat) else (num * Nat.pow 2 (-e).toNat, den)

/-- The exponent at which a fraction has 53 bits before the point, or the least one there is. -/
def exponentOf (num den : Nat) : Int :=
  let guess : Int := (Nat.log2 num : Int) - (Nat.log2 den : Int) - 52
  let (n, d) := scale num den guess
  let tight := if n < Nat.pow 2 52 * d then guess - 1 else guess
  max tight (-1074)

/-- The nearest value to a fraction. -/
def ofFraction (num den : Nat) : Binary64 :=
  if num = 0 then ⟨0, -1074⟩
  else
    let e := exponentOf num den
    let (n, d) := scale num den e
    let m := roundDiv n d
    if m = Nat.pow 2 53 then ⟨Nat.pow 2 52, e + 1⟩ else ⟨m, e⟩

/-- No finite value is this large. -/
def isOverflow (b : Binary64) : Bool := b.exponent > 971

/-- The value as a fraction. -/
def toFraction (m : Nat) (e : Int) : Nat × Nat :=
  if 0 ≤ e then (m * Nat.pow 2 e.toNat, 1) else (m, Nat.pow 2 (-e).toNat)

/-- A decimal with `d` as its digits rounds to the value. -/
def isReadBack (b : Binary64) (d : Nat) (e10 : Int) : Bool :=
  let (num, den) := if 0 ≤ e10 then (d * Nat.pow 10 e10.toNat, 1) else (d, Nat.pow 10 (-e10).toNat)
  ofFraction num den == b

/-- Twice the distance of two fractions over their common denominator, for comparing distances to
one value. -/
def distance (n₁ d₁ n₂ d₂ : Nat) : Nat := ((n₁ * d₂ : Int) - (n₂ * d₁ : Int)).natAbs

/-- The decimal on the grid `10 ^ e10` that reads back as the value, the nearer of two. -/
def onGrid? (b : Binary64) (e10 : Int) : Option Nat :=
  let (num, den) := toFraction b.significand b.exponent
  let (n, d) :=
    if 0 ≤ e10 then (num, den * Nat.pow 10 e10.toNat) else (num * Nat.pow 10 (-e10).toNat, den)
  let low := n / d
  let high := low + 1
  match isReadBack b low e10, isReadBack b high e10 with
  | true, true => if distance n d low 1 ≤ distance n d high 1 then some low else some high
  | true, false => some low
  | false, true => some high
  | false, false => none

/-- Tries grids from coarse to fine. -/
def shortestFrom (b : Binary64) : (count : Nat) → (e10 : Int) → Nat × Int
  | 0, e10 => (0, e10)
  | count + 1, e10 =>
    match onGrid? b e10 with
    | some d => if d = 0 then shortestFrom b count (e10 - 1) else (d, e10)
    | none => shortestFrom b count (e10 - 1)

/-- Number of decimal digits, at least one. -/
def digitCount (n : Nat) : Nat := (Nat.toDigits 10 n).length

/-- The shortest decimal that reads back: its digits and its exponent. -/
def shortest (b : Binary64) : Nat × Int :=
  let (num, den) := toFraction b.significand b.exponent
  let top : Int := (digitCount num : Int) - (digitCount den : Int) + 1
  shortestFrom b 24 top

end Binary64

namespace Decimal

/-- The magnitude as a fraction. -/
def toFraction (d : Decimal) : Nat × Nat :=
  if 0 ≤ d.exponent then (d.digits * Nat.pow 10 d.exponent.toNat, 1)
  else (d.digits, Nat.pow 10 (-d.exponent).toNat)

/-- Exponents beyond which a decimal with these digits is zero or too large whatever it is. -/
def isHuge (d : Decimal) : Bool :=
  d.digits ≠ 0 && (Binary64.digitCount d.digits : Int) + d.exponent > 400

def isTiny (d : Decimal) : Bool :=
  d.digits = 0 || (Binary64.digitCount d.digits : Int) + d.exponent < -400

/-- The nearest value of 64 bits to the magnitude. -/
def round (d : Decimal) : Binary64 :=
  if d.isTiny then ⟨0, -1074⟩ else
    let (num, den) := d.toFraction
    Binary64.ofFraction num den

/-- The magnitude is too large for 64 bits. -/
def isOverflow (d : Decimal) : Bool := d.isHuge || d.round.isOverflow

/-- A digit text with a point after its first digit, unless it is the only one. -/
def pointed (digits : List Char) : List Char :=
  match digits with
  | [] => ['0']
  | [c] => [c]
  | c :: rest => c :: '.' :: rest

/-- An exponent has a sign and at least two digits. -/
def exponentText (e : Int) : List Char :=
  let digits := Nat.toDigits 10 e.natAbs
  'e' :: (if e < 0 then '-' else '+') :: (if digits.length < 2 then '0' :: digits else digits)

/-- The text of `digits * 10 ^ e`: positional from `0.00001` to below `1e16` and with a point in
every case, with an exponent beyond. -/
def layout (digits : List Char) (e : Int) : List Char :=
  let place : Int := digits.length + e
  if 16 < place || place ≤ -5 then pointed digits ++ exponentText (place - 1)
  else if 0 ≤ e then digits ++ List.replicate e.toNat '0' ++ ['.', '0']
  else if 0 < place then digits.take place.toNat ++ '.' :: digits.drop place.toNat
  else '0' :: '.' :: List.replicate (-place).toNat '0' ++ digits

/-- Digits without the zeros at their end, which the exponent takes up. -/
def trimZeros (digits : List Char) (e : Int) : List Char × Int :=
  let kept := (digits.reverse.dropWhile (· == '0')).reverse
  (kept, e + ((digits.length - kept.length : Nat) : Int))

/-- The shortest text that reads back as the same value of 64 bits. -/
def text (d : Decimal) : String :=
  let b := d.round
  let magnitude :=
    if b.significand = 0 then ['0', '.', '0'] else
      let (n, e) := b.shortest
      let (digits, e) := trimZeros (Nat.toDigits 10 n) e
      layout digits e
  String.ofList (if d.negative then '-' :: magnitude else magnitude)

end Decimal

end JsxCheck
