import JsxCheck.Rule.Options
import JsxCheck.Source.Document
import JsxCheck.Syntax.Element

/-!
Fragments: where one should be used, and where one does nothing.
-/
namespace JsxCheck.Rule

/-- A `div` without attributes groups its children and no more, as a fragment does. -/
def preferFragment (options : PreferFragmentOptions) (e : Element) : List Diagnostic :=
  match e.closing with
  | some (.mk _ _ (closingName :: _)) =>
    if e.tagName == "div" && e.opening.items.isEmpty then
      let name := if options.noSyntaxSugar then "React.Fragment" else ""
      [(RuleName.jsxPreferFragment.warning e.opening.name.span
        ("An empty '" ++ e.tagName ++ "' should be written as React.Fragment.")).addFixes
          [⟨e.opening.name.span, name, none⟩, ⟨closingName.span, name, none⟩]]
    else []
  | _ => []

/-- Fewer than two children other than white space. -/
def groupsNothing (source : Source) (children : List Node) : Bool :=
  (children.filter (!·.isBlankText source)).length ≤ 1

def unnecessaryFragment (span : Span) : Diagnostic :=
  RuleName.reactNoUnnecessaryFragment.warning span "Unnecessary Fragment are forbidden"

/-- `<>…</>` around fewer than two children. -/
def noUnnecessaryFragment (doc : Document) (span : Span) (children : List Node) :
    List Diagnostic :=
  if groupsNothing doc.source children then [unnecessaryFragment span] else []

/-- `<Fragment>…</Fragment>` around fewer than two children. -/
def noUnnecessaryFragmentElement (doc : Document) (e : Element) : List Diagnostic :=
  if e.isFragment then
    if e.isSelfClosing then [unnecessaryFragment e.span]
    else noUnnecessaryFragment doc e.span e.children
  else []

end JsxCheck.Rule
