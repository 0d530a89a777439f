import JsxCheck.Pattern.Basic

/-!
Where patterns match.

`ends` lists the places at which a match that starts at a given place may end. Which of several
matches is found first does not matter here: a pattern is only asked whether it matches somewhere.
-/
namespace JsxCheck

namespace Assertion

def before? (text : Array Char) (i : Nat) : Option Char := if i = 0 then none else text[i - 1]?

/-- A character of a word, in ASCII or in any script. -/
def isWord (ascii : Bool) (c : Option Char) : Bool :=
  c.any fun c => if ascii then isAsciiWordChar c else isWordChar c

/-- The assertion holds at a place of a text. -/
def holds (text : Array Char) (i : Nat) : Assertion → Bool
  | textStart => i == 0
  | textEnd => i == text.size
  | lineStart crlf =>
    match before? text i with
    | none => true
    | some '\n' => true
    | some '\r' => crlf && text[i]? != some '\n'
    | some _ => false
  | lineEnd crlf =>
    match text[i]? with
    | none => true
    | some '\n' => !crlf || before? text i != some '\r'
    | some '\r' => crlf
    | some _ => false
  | wordBoundary ascii => isWord ascii (before? text i) != isWord ascii text[i]?
  | notWordBoundary ascii => isWord ascii (before? text i) == isWord ascii text[i]?
  | wordStart ascii => !isWord ascii (before? text i) && isWord ascii text[i]?
  | wordEnd ascii => isWord ascii (before? text i) && !isWord ascii text[i]?
  | wordStartHalf ascii => !isWord ascii (before? text i)
  | wordEndHalf ascii => !isWord ascii text[i]?

end Assertion

namespace Pattern

/-- The places reached from some places in one step, each once. -/
def stepAll (step : Nat → List Nat) (places : List Nat) : List Nat :=
  (places.flatMap step).eraseDups

/-- The places reached in exactly `n` steps. -/
def stepTimes (step : Nat → List Nat) : (n : Nat) → List Nat → List Nat
  | 0, places => places
  | n + 1, places => if places.isEmpty then [] else stepTimes step n (stepAll step places)

/-- The places reached in at most `n` steps. -/
def stepUpTo (step : Nat → List Nat) : (n : Nat) → List Nat → List Nat
  | 0, places => places
  | n + 1, places => stepUpTo step n (places ++ stepAll step places).eraseDups

/-- Where matches that start at a place may end. Further rounds of a repetition than the text has
places reach nothing new. -/
def ends (text : Array Char) : Pattern → Nat → List Nat
  | .empty, i => [i]
  | .one set, i => if text[i]?.any set.contains then [i + 1] else []
  | .assertion a, i => if a.holds text i then [i] else []
  | .sequence p q, i => stepAll (q.ends text) (p.ends text i)
  | .alternative p q, i => (p.ends text i ++ q.ends text i).eraseDups
  | .repetition p least most, i =>
    let rounds := match most with
      | some m => min (m - least) (text.size + 1)
      | none => text.size + 1
    stepUpTo (p.ends text) rounds (stepTimes (p.ends text) least [i])

/-- The pattern matches some part of the text. -/
def isMatch (p : Pattern) (text : String) : Bool :=
  let chars := text.toList.toArray
  (List.range (chars.size + 1)).any fun i => !(p.ends chars i).isEmpty

end Pattern

end JsxCheck
