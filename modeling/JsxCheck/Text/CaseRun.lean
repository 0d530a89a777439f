import JsxCheck.Text.RangeTable

/-!
Runs of characters whose case changes by the same distance.
-/
namespace JsxCheck

/-- Every `step`-th code point from `low` to `high` has its lower case `shift` further on. -/
structure CaseRun where
  low : Nat
  high : Nat
  step : Nat
  shift : Int
  deriving Inhabited

/-- Reads `41-5a+20`, with `/2` before the sign for every second code point and `~` for minus. -/
def CaseRun.read (entry : List Char) : CaseRun :=
  let isSign := fun c : Char => c == '+' || c == '~'
  let where_ := entry.takeWhile (!isSign ·)
  let signed := entry.dropWhile (!isSign ·)
  let range := RangeTable.readEntry (where_.takeWhile (· != '/'))
  let distance : Int := hexNumber (signed.drop 1)
  { low := range.1, high := range.2
    step := if where_.contains '/' then 2 else 1
    shift := if signed.head? == some '~' then -distance else distance }

namespace CaseRun

/-- The run that covers a code point, if any. -/
def find? (runs : Array CaseRun) (n : Nat) : Option CaseRun :=
  runs.find? fun r => r.low ≤ n && n ≤ r.high && (n - r.low) % r.step == 0

/-- The character that a run puts in place of another. -/
def apply (r : CaseRun) (c : Char) : Char := Char.ofNat ((c.toNat : Int) + r.shift).toNat

end CaseRun

end JsxCheck
