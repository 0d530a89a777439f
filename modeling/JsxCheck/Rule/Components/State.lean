import JsxCheck.Rule.Name
import JsxCheck.Source.Document
import JsxCheck.Syntax.CallShape
import JsxCheck.Syntax.ClassShape

/-!
State of components, and when they render again.
-/
namespace JsxCheck.Rule

/-- `this.setState` is handed a value that reads `this.state`. -/
def noAccessState (doc : Document) (call : Node) : List Diagnostic :=
  match call.callee?, call.arguments.head? with
  | some callee, some argument =>
    if doc.text callee.span == "this.setState"
        && containsText (doc.text argument.span) "this.state." then
      [RuleName.noAccessStateInSetstate.warning call.span
        "Use callback in setState when referencing the previous state."]
    else []
  | _, _ => []

/-- A class declared to extend `React.Component` says when it renders again. -/
def implementScu (doc : Document) (n : Node) : List Diagnostic :=
  match n.kind with
  | .classDeclaration =>
    if n.superText? doc.source == some "React.Component"
        && !n.methodNames.any (containsText · "shouldComponentUpdate") then
      [RuleName.reactComponentClassesShouldImplementScu.warning n.span
        ("React components extending React.Component should either implement "
          ++ "shouldComponentUpdate() or extend PureComponent to avoid unnecessary renders "
          ++ "(react-component-classes-should-implement-scu)")]
    else []
  | _ => []

end JsxCheck.Rule
