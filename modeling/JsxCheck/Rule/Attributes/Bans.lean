import JsxCheck.Pattern.Match
import JsxCheck.Pattern.Reader
import JsxCheck.Rule.Options
import JsxCheck.Source.Document
import JsxCheck.Syntax.Element

/-!
Elements and properties that a configuration bans.
-/
namespace JsxCheck

/-- A ban meets the names that its pattern matches; a text that is no pattern matches none. -/
def ElementBan.meets (ban : ElementBan) (name : String) : Bool :=
  (Pattern.parse? ban.pattern).any (·.isMatch name)

namespace Rule

/-- A sentence, followed by an explanation if there is one. -/
def explain (sentence : String) (explanation : Option String) : String :=
  match explanation with
  | some text => sentence ++ " " ++ text
  | none => sentence

/-- The first ban that a tag's name meets. -/
def banElements (options : BanElementsOptions) (doc : Document) (o : Opening) : List Diagnostic :=
  let name := doc.text o.name.span
  match options.bans.find? (·.meets name) with
  | none => []
  | some ban =>
    [RuleName.jsxBanElements.warning o.name.span
      (explain ("JSX element '" ++ name ++ "' is banned.") ban.message)]

/-- The ban of a property; of several the last counts. -/
def banOf? (options : BanPropsOptions) (name : String) : Option PropBan :=
  options.props.reverse.find? (·.name == name)

/-- Every attribute whose name is banned. An empty explanation is none. -/
def banProps (options : BanPropsOptions) (o : Opening) : List Diagnostic :=
  o.attributes.flatMap fun a =>
    match banOf? options a.name with
    | none => []
    | some ban =>
      [RuleName.jsxBanProps.warning a.nameSpan
        (explain ("Use of the prop '" ++ a.name ++ "' is not allowed.")
          (ban.message.filter (· != "")))]

end Rule

end JsxCheck
