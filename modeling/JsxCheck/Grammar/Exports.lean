import JsxCheck.Syntax.Node

/-!
The names under which a module exports.
-/
namespace JsxCheck.Grammar

mutual

def boundNames : Node → List String
  | .mk (.binding text) _ _ => [text]
  | .mk .patternProperty _ [_, value] => boundNames value
  | .mk .defaultPattern _ (pattern :: _) => boundNames pattern
  | .mk .objectPattern _ parts | .mk .arrayPattern _ parts | .mk .restPattern _ parts =>
    boundNamesOf parts
  | _ => []

def boundNamesOf : List Node → List String
  | [] => []
  | n :: rest => boundNames n ++ boundNamesOf rest

end

def declaredNames : Node → List String
  | .mk (.variables _) _ declarators =>
    declarators.flatMap fun d => boundNamesOf (d.children.take 1)
  | .mk .functionDeclaration _ parts | .mk .classDeclaration _ parts => parts.flatMap boundNames
  | _ => []

/-- A name in a list of exports, written as a word or as a string. -/
def nameText? (n : Node) : Option String :=
  match n.kind with
  | .name text | .exprPart (.string text) => some text
  | _ => none

def exportedNames : Node → List String
  | .mk .exportDefault _ _ => ["default"]
  | .mk .exportAll _ (name :: path :: _) =>
    if (nameText? path).isSome then (nameText? name).toList else []
  | .mk .exportNamed _ parts => parts.flatMap fun part =>
    match part with
    | .mk .exportSpecifier _ [_, outer] => (nameText? outer).toList
    | declared => declaredNames declared
  | _ => []

end JsxCheck.Grammar
