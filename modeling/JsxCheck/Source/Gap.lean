import JsxCheck.Source.Text

/-!
What stands between two tokens: white space and comments.

Comment spans are listed in source order. A gap exists where at least one byte between the tokens
belongs to no comment; replacing the gap by its comments removes the white space and keeps them.
-/
namespace JsxCheck

/-- A stretch between two tokens that holds white space, with the text of the comments in it. -/
structure Gap where
  span : Span
  comments : String
  deriving DecidableEq, Inhabited

/-- The comments that lie wholly inside `[start, stop)`. -/
def commentsWithin (comments : List Span) (start stop : Nat) : List Span :=
  (comments.dropWhile (·.start < start)).takeWhile (·.stop ≤ stop)

/-- The gap `[start, stop)` when it holds more than comments. -/
def whitespaceGap (s : Source) (comments : List Span) (start stop : Nat) : Option Gap :=
  if stop ≤ start then none
  else if (s.slice? start stop).isNone then none
  else
    let inside := commentsWithin comments start stop
    if stop - start > (inside.map Span.width).foldl (· + ·) 0 then
      some ⟨⟨start, stop⟩, String.join (inside.map s.slice)⟩
    else none

/-- The search of `findToken` from an offset on: a hit inside a comment moves it past the comment. -/
def findTokenFrom (s : Source) (comments : List Span) (needle : String) (stop : Nat) :
    (fuel : Nat) → (i : Nat) → Option Nat
  | 0, _ => none
  | fuel + 1, i =>
    match s.find? needle i stop with
    | none => none
    | some hit =>
      match comments.find? (·.contains hit) with
      | some comment => findTokenFrom s comments needle stop fuel comment.stop
      | none => some hit

/-- Offset of the first occurrence of `needle` in `[start, stop)` that is in no comment. -/
def findToken (s : Source) (comments : List Span) (start stop : Nat) (needle : String) : Option Nat :=
  if (s.slice? start stop).isSome then
    findTokenFrom s comments needle stop (stop - start + 1) start
  else none

end JsxCheck
