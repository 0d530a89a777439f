import JsxCheck.Rule.Name
import JsxCheck.Source.Document
import JsxCheck.Syntax.Element

/-!
How elements without children are closed.
-/
namespace JsxCheck.Rule

/-- White space stands before the `/>` of a self-closing element. -/
def spaceBeforeTrailingSlash (doc : Document) (e : Element) : List Diagnostic :=
  if e.isSelfClosing && 2 ≤ e.span.stop then
    let slash := e.span.stop - 2
    match doc.source.charBefore? slash with
    | some c =>
      if isBlankChar c then []
      else
        [(RuleName.jsxSpaceBeforeTrailingSlash.warning e.span
          "Self-closing JSX elements must have a space before the '/>' part").addFix
            (.insert slash " ")]
    | none => []
  else []

/-- Nothing but white space stands between the tags. -/
def hasNoContent (source : Source) : List Node → Bool
  | [] => true
  | [only] => only.isBlankText source
  | _ => false

/-- An element without content closes itself: `>…</tag>` becomes ` />`. -/
def selfClose (doc : Document) (e : Element) : List Diagnostic :=
  match e.closing with
  | none => []
  | some closing =>
    if hasNoContent doc.source e.children then
      [(RuleName.jsxSelfClose.warning e.span
        "JSX elements with no children must be self-closing").addFix
          ⟨⟨e.opening.span.stop - 1, closing.span.stop⟩, " />", none⟩]
    else []

end JsxCheck.Rule
