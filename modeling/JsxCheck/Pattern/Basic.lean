import JsxCheck.Pattern.CharSet

/-!
Patterns: regular expressions over characters, with assertions about where they match.
-/
namespace JsxCheck

/-- Something that holds between two characters. -/
inductive Assertion where
  | textStart | textEnd
  /-- At the start of a line; with `crlf` a carriage return ends lines too. -/
  | lineStart (crlf : Bool)
  | lineEnd (crlf : Bool)
  | wordBoundary (ascii : Bool) | notWordBoundary (ascii : Bool)
  | wordStart (ascii : Bool) | wordEnd (ascii : Bool)
  | wordStartHalf (ascii : Bool) | wordEndHalf (ascii : Bool)
  deriving DecidableEq, Inhabited

inductive Pattern where
  | empty
  | one (set : CharSet)
  | assertion (assertion : Assertion)
  | sequence (first second : Pattern)
  | alternative (first second : Pattern)
  /-- At least `least` times and at most `most` times. -/
  | repetition (body : Pattern) (least : Nat) (most : Option Nat)
  deriving Inhabited

namespace Pattern

def ofSequence : List Pattern → Pattern
  | [] => .empty
  | [p] => p
  | p :: ps => .sequence p (ofSequence ps)

def ofAlternatives : List Pattern → Pattern
  | [] => .empty
  | [p] => p
  | p :: ps => .alternative p (ofAlternatives ps)

/-- Number of single characters and assertions when every repetition is written out. -/
def size : Pattern → Nat
  | .empty => 0
  | .one _ => 1
  | .assertion _ => 1
  | .sequence p q => p.size + q.size
  | .alternative p q => p.size + q.size + 1
  | .repetition p least most => (p.size + 1) * max 1 (max least (most.getD 0))

end Pattern

end JsxCheck
