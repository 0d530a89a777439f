import JsxCheck.Rule.Name
import JsxCheck.Source.Document
import JsxCheck.Syntax.Element

/-!
Text shown to users, which should come from a translation function.
-/
namespace JsxCheck.Rule

namespace Translation

def warning (span : Span) : Diagnostic :=
  RuleName.jsxUseTranslationFunction.warning span
    "No string literal in JSX. Use a translation function."

/-- Attributes whose text users read. -/
def isShown (name : String) : Bool := name == "placeholder" || name == "title" || name == "alt"

def isString (n : Node) : Bool :=
  match n.expr? with
  | some (.string _) => true
  | _ => false

/-- A text or a string in braces among the children of an element. -/
def shownChild? (source : Source) : Node → Option Span
  | .mk .jsxText s cs => if (Node.mk .jsxText s cs).isBlankText source then none else some s
  | .mk .jsxContainer s [e] => if isString e then some s else none
  | _ => none

/-- The string given to an attribute, with its braces. -/
def shownValue? (a : Attribute) : Option Span :=
  match a.string?, a.container?, a.expression? with
  | some (span, _), _, _ => some span
  | none, some container, some e => if isString e then some container.span else none
  | _, _, _ => none

end Translation

/-- Texts between the tags of an element. -/
def translatedChildren (doc : Document) (e : Element) : List Diagnostic :=
  (e.children.filterMap (Translation.shownChild? doc.source)).map Translation.warning

/-- Texts given to the attributes of an opening tag. -/
def translatedAttributes (o : Opening) : List Diagnostic :=
  ((o.attributes.filter (Translation.isShown ·.name)).filterMap Translation.shownValue?).map
    Translation.warning

end JsxCheck.Rule
