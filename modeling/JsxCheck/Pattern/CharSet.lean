import JsxCheck.Text.Blank
import JsxCheck.Text.CaseCycle
import JsxCheck.Text.Category

/-!
Sets of characters that patterns are built from.
-/
namespace JsxCheck

inductive CharSet where
  | nothing
  | range (low high : Char)
  | satisfying (test : Char → Bool)
  | union (left right : CharSet)
  | intersection (left right : CharSet)
  | difference (left right : CharSet)
  | symmetricDifference (left right : CharSet)
  | complement (set : CharSet)
  /-- The characters that differ in case only from one of the set; among ASCII alone, or all. -/
  | folded (ascii : Bool) (set : CharSet)
  deriving Inhabited

namespace CharSet

/-- Characters that differ in case only; the ASCII cycle has at most two. -/
def caseVariants (ascii : Bool) (c : Char) : List Char :=
  if ascii then [c, c.toLower, c.toUpper] else caseCycle c

def contains : CharSet → Char → Bool
  | nothing, _ => false
  | range low high, c => low ≤ c && c ≤ high
  | satisfying test, c => test c
  | union left right, c => left.contains c || right.contains c
  | intersection left right, c => left.contains c && right.contains c
  | difference left right, c => left.contains c && !right.contains c
  | symmetricDifference left right, c => left.contains c != right.contains c
  | complement set, c => !set.contains c
  | folded ascii set, c => (caseVariants ascii c).any set.contains

def single (c : Char) : CharSet := range c c

def any : CharSet := satisfying fun _ => true

def ofRanges (ranges : List (Char × Char)) : CharSet :=
  ranges.foldr (fun r rest => union (range r.1 r.2) rest) nothing

def negatedIf (negated : Bool) (set : CharSet) : CharSet :=
  if negated then complement set else set

/-- The set, or what differs from it in case only. -/
def foldedIf (folds ascii : Bool) (set : CharSet) : CharSet :=
  if folds then folded ascii set else set

end CharSet

/-- Decimal digits of any script. -/
def isDecimalDigit (c : Char) : Bool := categoryOf c == "Nd"

/-- Letters that have neither the category of a letter nor that of a letter number. -/
def isEnclosedLetter (c : Char) : Bool :=
  (0x24B6 ≤ c.toNat && c.toNat ≤ 0x24E9) || (0x1F130 ≤ c.toNat && c.toNat ≤ 0x1F149)
    || (0x1F150 ≤ c.toNat && c.toNat ≤ 0x1F169) || (0x1F170 ≤ c.toNat && c.toNat ≤ 0x1F189)

/-- Characters of words: letters, marks, digits, connectors and joiners. -/
def isWordChar (c : Char) : Bool :=
  ["Lu", "Ll", "Lt", "Lm", "Lo", "Mn", "Mc", "Me", "Nd", "Nl", "Pc"].contains (categoryOf c)
    || c.toNat == 0x200C || c.toNat == 0x200D || isEnclosedLetter c

def isAsciiWordChar (c : Char) : Bool := c.isAlphanum || c == '_'

end JsxCheck
