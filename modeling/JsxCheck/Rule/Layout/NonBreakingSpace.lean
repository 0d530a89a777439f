import JsxCheck.Rule.Name
import JsxCheck.Source.Document
import JsxCheck.Syntax.Node

/-!
Runs of `&nbsp;` in text, which are better written as strings of spaces.
-/
namespace JsxCheck.Rule

namespace NonBreakingSpace

def entity : String := "&nbsp;"

/-- Neighbours that touch are joined: the start of each run, and how many entities it has. -/
def runs : List Nat → List (Nat × Nat)
  | [] => []
  | offset :: rest =>
    match runs rest with
    | (start, count) :: more =>
      if start = offset + entity.utf8ByteSize then (offset, count + 1) :: more
      else (offset, 1) :: (start, count) :: more
    | [] => [(offset, 1)]

def runsOf (text : String) : List (Nat × Nat) :=
  runs ((Source.mk text).occurrencesFrom entity (text.utf8ByteSize + 1) 0)

/-- A string of spaces in braces. -/
def spaces (count : Nat) : String :=
  "\x7b\"" ++ String.ofList (List.replicate count ' ') ++ "\"\x7d"

end NonBreakingSpace

/-- Every run of `&nbsp;` in a text. -/
def whitespaceLiteral (doc : Document) (text : Span) : List Diagnostic :=
  (NonBreakingSpace.runsOf (doc.text text)).map fun (offset, count) =>
    let start := text.start + offset
    let span : Span := ⟨start, start + count * NonBreakingSpace.entity.utf8ByteSize⟩
    (RuleName.jsxWhitespaceLiteral.warning span
      "Expected '\x7b\" \"\x7d' instead of '&nbsp;' in JSX markup").addFix
        ⟨span, NonBreakingSpace.spaces count, none⟩

end JsxCheck.Rule
