import JsxCheck.Rule.Name
import JsxCheck.Syntax.Element

/-!
Strings given to `ref`. The check runs under two names.
-/
namespace JsxCheck.Rule

/-- A string given to the first `ref` of an element, reported under a rule's name. -/
def stringRef (r : RuleName) (o : Opening) : List Diagnostic :=
  match (o.find? "ref").bind Attribute.stringSpan? with
  | some span => [r.warning span "Pass a callback to ref prop instead of a string literal"]
  | none => []

end JsxCheck.Rule
