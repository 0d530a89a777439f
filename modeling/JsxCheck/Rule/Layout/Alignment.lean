import JsxCheck.Rule.Name
import JsxCheck.Source.Document
import JsxCheck.Syntax.Element

/-!
Layout of opening tags that span several lines: every attribute on a line of its own, one level
deeper than the tag, and the tag closed at the indentation of the line it opens on.
-/
namespace JsxCheck.Rule

namespace Alignment

def onTagLine : String := "JSX attributes must be on a line below the opening tag"

def notIndented : String := "JSX attributes must be indented further than the opening tag statement"

def notAligned : String := "JSX attributes must be on their own line and vertically aligned"

def tagClose : String := "Tag closing must be on its own line and aligned with opening of tag"

def closingTag : String := "Closing tag must be on its own line and aligned with opening tag"

/-- Where the opening tag is closed: at its `>`, or at the `/` of `/>`. -/
def closeOffset (e : Element) : Nat :=
  e.opening.span.stop - if e.isSelfClosing then 2 else 1

/-- Indentation of the line an element opens on. -/
def indentOf (doc : Document) (e : Element) : Nat :=
  doc.lines.indent doc.source (doc.line e.opening.span.start)

/-- A diagnostic when something is wrong. -/
def reportIf (wrong : Bool) (span : Span) (message : String) : List Diagnostic :=
  if wrong then [RuleName.jsxAlignment.warning span message] else []

def attributes (doc : Document) (e : Element) (first : AttributeItem) (rest : List AttributeItem) :
    List Diagnostic :=
  let column (item : AttributeItem) := doc.column item.span.start
  let shallow (item : AttributeItem) :=
    reportIf (column item ≤ indentOf doc e) item.span notIndented
  reportIf (doc.line first.span.start == doc.line e.opening.span.start) first.span onTagLine
    ++ shallow first
    ++ rest.flatMap fun item =>
      shallow item ++ reportIf (column item != column first) item.span notAligned

/-- What is wrong with the end of an opening tag whose last attribute is given. -/
def openingEnd (doc : Document) (e : Element) (last : AttributeItem) : List Diagnostic :=
  let close := closeOffset e
  reportIf (doc.line last.span.start == doc.line close || doc.column close != indentOf doc e)
    ⟨close, close + 1⟩ tagClose

def closing (doc : Document) (e : Element) : List Diagnostic :=
  match e.closing with
  | none => []
  | some tag =>
    reportIf
      (doc.line tag.span.start ≤ doc.line (closeOffset e)
        || doc.column tag.span.start != indentOf doc e)
      tag.span closingTag

end Alignment

/-- Elements without attributes, and opening tags on one line, are never reported. -/
def alignment (doc : Document) (e : Element) : List Diagnostic :=
  match e.opening.items with
  | [] => []
  | first :: rest =>
    if doc.isMultiline e.opening.span then
      Alignment.attributes doc e first rest
        ++ Alignment.openingEnd doc e (rest.getLastD first)
        ++ Alignment.closing doc e
    else []

end JsxCheck.Rule
