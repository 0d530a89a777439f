import JsxCheck.Rule.Name
import JsxCheck.Source.Document
import JsxCheck.Syntax.Element

/-!
Elements and expressions that span several lines.
-/
namespace JsxCheck

/-- Where an element stands. -/
inductive Position where
  /-- Between the tags of another element. -/
  | child
  /-- Directly inside parentheses, which cover the span. -/
  | parenthesized (span : Span)
  | other
  deriving DecidableEq, Inhabited, Repr

namespace Rule

/-- Every element on several lines stands directly inside parentheses. -/
def wrapMulitlines (doc : Document) (e : Element) (position : Position) : List Diagnostic :=
  if doc.isMultiline e.span then
    match position with
    | .parenthesized _ => []
    | _ =>
      [RuleName.jsxWrapMulitlines.warning e.span
        "Multiline JSX elements must be wrapped in parenthesis"]
  else []

/-- Every element on several lines, other than a child of an element, stands directly inside
parentheses on lines of their own. -/
def wrapMultiline (doc : Document) (e : Element) (position : Position) : List Diagnostic :=
  if doc.isMultiline e.span then
    match position with
    | .child => []
    | .other =>
      [RuleName.jsxWrapMultiline.warning e.span
        "Multiline JSX elements must be wrapped in parentheses"]
    | .parenthesized paren =>
      (if doc.line paren.start == doc.line e.span.start then
        [RuleName.jsxWrapMultiline.warning ⟨paren.start, e.span.start⟩
          "New line required after open parenthesis when wrapping multiline JSX elements"]
      else [])
      ++ if doc.line (paren.stop - 1) == doc.line e.span.stop then
        [RuleName.jsxWrapMultiline.warning ⟨e.span.stop, paren.stop⟩
          "New line requred before close parenthesis when wrapping multiline JSX elements"]
      else []
  else []

/-- What stands in braces stands on one line. -/
def noMultilineJs (doc : Document) (container : Node) : List Diagnostic :=
  if isMultilineText (doc.text container.span) then
    [RuleName.jsxNoMultilineJs.warning container.span
      "Multiline JS expressions inside JSX are forbidden"]
  else []

end Rule

end JsxCheck
