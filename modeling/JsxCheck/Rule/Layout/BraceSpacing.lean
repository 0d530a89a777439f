import JsxCheck.Rule.Options
import JsxCheck.Source.Document
import JsxCheck.Source.Gap
import JsxCheck.Syntax.Node

/-!
Space inside the braces of `{value}` and `{...value}`.

The space after `{` ends where the next token begins, and the space before `}` begins where the
last token ends. In `{ }` both are the same gap, so only the diagnostic at `{` carries the fix.
-/
namespace JsxCheck.Rule

namespace BraceSpacing

/-- The four tokens whose gaps are checked: `{` with the token after it, and `}` with the token
before it. -/
structure Tokens where
  first : Span
  second : Span
  secondToLast : Span
  last : Span
  deriving DecidableEq, Inhabited

/-- The `{` of a span in braces. -/
def openBrace (span : Span) : Span := ⟨span.start, span.start + 1⟩

/-- The `}` of a span in braces. -/
def closeBrace (span : Span) : Span := ⟨span.stop - 1, span.stop⟩

/-- Tokens of `{value}`; empty braces hold none between the two. -/
def containerTokens (span : Span) (value : Option Span) : Tokens :=
  match value with
  | some value => ⟨openBrace span, value, value, closeBrace span⟩
  | none => ⟨openBrace span, closeBrace span, openBrace span, closeBrace span⟩

/-- Tokens of `{...value}`. -/
def spreadTokens? (doc : Document) (span value : Span) : Option Tokens := do
  let dots ← findToken doc.source doc.comments (span.start + 1) value.start "..."
  some ⟨openBrace span, ⟨dots, dots + 3⟩, value, closeBrace span⟩

def warning (span : Span) (message : String) (fixes : List Fix) : Diagnostic :=
  (RuleName.jsxCurlySpacing.warning span message).addFixes fixes

/-- The space after `{`. -/
def leading (doc : Document) (t : Tokens) : Option Gap :=
  whitespaceGap doc.source doc.comments t.first.stop t.second.start

/-- The space before `}`. -/
def trailing (doc : Document) (t : Tokens) : Option Gap :=
  whitespaceGap doc.source doc.comments t.secondToLast.stop t.last.start

/-- Space is asked for on both sides. -/
def required (doc : Document) (t : Tokens) : List Diagnostic :=
  (if (leading doc t).isNone then
    [warning t.first "A space is required after \x7b" [.insert t.first.stop " "]]
  else [])
  ++ if (trailing doc t).isNone then
    [warning t.last "A space is required before \x7d" [.insert t.last.start " "]]
  else []

/-- Space is refused on both sides, unless there is a line break between the braces and the end of
the token beside them. -/
def forbidden (doc : Document) (t : Tokens) : List Diagnostic :=
  (match leading doc t with
  | some gap =>
    if isMultilineText (doc.text ⟨t.first.start, t.second.stop⟩) then []
    else [warning t.first "There should be no space after \x7b" [⟨gap.span, gap.comments, none⟩]]
  | none => [])
  ++ match trailing doc t with
  | some gap =>
    if isMultilineText (doc.text ⟨t.secondToLast.start, t.last.stop⟩) then []
    else
      [warning t.last "There should be no space before \x7d"
        (if t.first = t.secondToLast then [] else [⟨gap.span, gap.comments, none⟩])]
  | none => []

def check (options : SpacingOptions) (doc : Document) (t : Tokens) : List Diagnostic :=
  match options.spacing with
  | some .always => required doc t
  | some .never => forbidden doc t
  | none => []

end BraceSpacing

/-- Space in `{value}`, as an attribute's value or as a child. -/
def braceSpacing (options : SpacingOptions) (doc : Document) (span : Span) (content : Node) :
    List Diagnostic :=
  BraceSpacing.check options doc
    (BraceSpacing.containerTokens span (if content.isExpr then some content.span else none))

/-- Space in `{...value}`, among attributes or as a child. -/
def spreadSpacing (options : SpacingOptions) (doc : Document) (span : Span) (value : Node) :
    List Diagnostic :=
  match BraceSpacing.spreadTokens? doc span value.span with
  | some tokens => BraceSpacing.check options doc tokens
  | none => []

end JsxCheck.Rule
