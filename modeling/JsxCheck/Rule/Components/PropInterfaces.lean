import JsxCheck.Rule.Name
import JsxCheck.Source.Document
import JsxCheck.Syntax.TypeShape

/-!
Interfaces that declare the properties of a component: their names and the order of their members.
-/
namespace JsxCheck.Rule

namespace PropInterfaces

/-- A file name without the first `tsx` that follows a character, and without that character. -/
def dropExtension : List Char → List Char
  | [] => []
  | c :: rest =>
    match rest with
    | 't' :: 's' :: 'x' :: after => after
    | _ => c :: dropExtension rest

/-- The component that a file is named for. -/
def componentName (path : String) : String :=
  String.ofList (dropExtension (path.toList.reverse.takeWhile (· != '/')).reverse)

/-- The members out of order, given the text of the last one in order. -/
def unsorted (compare : String → String → Ordering) (doc : Document) :
    (previous : String) → List Node → List Node
  | _, [] => []
  | previous, member :: rest =>
    let current := doc.text member.span
    if compare current previous == .gt then unsorted compare doc current rest
    else member :: unsorted compare doc previous rest

end PropInterfaces

/-- In TSX files whose path is known, interfaces are named for the component. -/
def namedPropInterface (doc : Document) (n : Node) : List Diagnostic :=
  match n.interface?, doc.path with
  | some (name, _), some path =>
    if doc.dialect.isTsx && name != PropInterfaces.componentName path ++ "Props" then
      [RuleName.jsxNamedPropInterface.warning n.span
        "interface name must be $\x7bcomponentName\x7dProps"]
    else []
  | _, _ => []

/-- Each property comes after the last one that was in order, by the text of its declaration in an
order of texts. -/
def propSorting (compare : String → String → Ordering) (doc : Document) (n : Node) :
    List Diagnostic :=
  match n.interface? with
  | some (_, members) =>
    (PropInterfaces.unsorted compare doc "" (members.filter Node.isPropertySignature)).map
      fun member => RuleName.jsxPropSorting.warning member.span "Prop names are not alphabetized"
  | none => []

end JsxCheck.Rule
