import JsxCheck.Config.Schema
import JsxCheck.Rule.Options

/-!
Options of the rules in JSON: how they are read, and how they are written with all their fields.
-/
namespace JsxCheck

/-- A field whose value replaces what the record holds. -/
def Field.of {σ α : Type} (name : String) (required : Bool) (read : OptionReader α)
    (put : α → σ → σ) : Field σ :=
  { name, required, read := fun json record => (read json).map (put · record) }

namespace Usage

def variants : List (String × Usage) := [("always", always), ("never", never)]

def read : OptionReader Usage := .variant variants

def toJson : Usage → Json
  | always => .string "always"
  | never => .string "never"

end Usage

namespace PropKind

def variants : List (String × PropKind) :=
  [("spread", spread), ("shorthand", shorthand), ("longhand", longhand)]

def read : OptionReader PropKind := .variant variants

def toJson (kind : PropKind) : Json := .string kind.text

end PropKind

/-- A text, or null. -/
def Json.ofText? : Option String → Json
  | some text => .string text
  | none => .null

/-- The entry of an explanation, left out when there is none. -/
def messageEntry (message : Option String) : List (String × Json) :=
  message.toList.map fun text => ("message", .string text)

namespace NoOptions

def schema : Schema NoOptions := { name := "NoOptions", fields := [], start := {}, closed := true }

def toJson (_ : NoOptions) : Json := .object []

end NoOptions

namespace ElementBan

def schema : Schema ElementBan where
  name := "BannedElement"
  start := { pattern := "" }
  fields := [
    .of "pattern" true .string fun pattern ban => { ban with pattern },
    .of "message" false (.optional .string) fun message ban => { ban with message }]

def toJson (ban : ElementBan) : Json :=
  .ofFields (("pattern", .string ban.pattern) :: messageEntry ban.message)

end ElementBan

namespace BanElementsOptions

def schema : Schema BanElementsOptions where
  name := "JsxBanElementsConfig"
  start := {}
  fields := [.of "bans" false (.list ElementBan.schema.read) fun bans _ => { bans }]

def toJson (options : BanElementsOptions) : Json :=
  .ofFields [("bans", .array (options.bans.map ElementBan.toJson))]

end BanElementsOptions

namespace PropBan

def schema : Schema PropBan where
  name := "BannedProp"
  start := { name := "" }
  fields := [
    .of "name" true .string fun name ban => { ban with name },
    .of "message" false (.optional .string) fun message ban => { ban with message }]

def toJson (ban : PropBan) : Json :=
  .ofFields (("name", .string ban.name) :: messageEntry ban.message)

end PropBan

namespace BanPropsOptions

def schema : Schema BanPropsOptions where
  name := "JsxBanPropsConfig"
  start := {}
  fields := [.of "props" false (.list PropBan.schema.read) fun props _ => { props }]

def toJson (options : BanPropsOptions) : Json :=
  .ofFields [("props", .array (options.props.map PropBan.toJson))]

end BanPropsOptions

namespace BooleanValueOptions

def schema : Schema BooleanValueOptions where
  name := "JsxBooleanValueConfig"
  start := {}
  fields := [.of "value" false Usage.read fun value _ => { value }]

def toJson (options : BooleanValueOptions) : Json := .ofFields [("value", options.value.toJson)]

end BooleanValueOptions

namespace BracePresenceOptions

def schema : Schema BracePresenceOptions where
  name := "JsxCurlyBracePresenceConfig"
  start := {}
  fields := [.of "props" false Usage.read fun props _ => { props }]

def toJson (options : BracePresenceOptions) : Json := .ofFields [("props", options.props.toJson)]

end BracePresenceOptions

namespace SpacingOptions

/-- The two rules on spacing share their options and differ in what messages call them. -/
def schema (name : String) : Schema SpacingOptions where
  name
  start := {}
  fields := [.of "spacing" false (.optional Usage.read) fun spacing _ => { spacing }]

def toJson (options : SpacingOptions) : Json :=
  .ofFields [("spacing", (options.spacing.map Usage.toJson).getD .null)]

end SpacingOptions

namespace PreferFragmentOptions

def schema : Schema PreferFragmentOptions where
  name := "JsxPreferFragmentConfig"
  start := {}
  fields := [.of "noSyntaxSugar" false .boolean fun noSyntaxSugar _ => { noSyntaxSugar }]

def toJson (options : PreferFragmentOptions) : Json :=
  .ofFields [("noSyntaxSugar", .bool options.noSyntaxSugar)]

end PreferFragmentOptions

namespace SortPropsOptions

def schema : Schema SortPropsOptions where
  name := "JsxSortPropsConfig"
  start := {}
  fields := [
    .of "ignoreCase" false .boolean fun ignoreCase options => { options with ignoreCase },
    .of "order" false (.optional (.list PropKind.read)) fun order options => { options with order }]

def toJson (options : SortPropsOptions) : Json :=
  .ofFields [
    ("ignoreCase", .bool options.ignoreCase),
    ("order", match options.order with
      | some kinds => .array (kinds.map PropKind.toJson)
      | none => .null)]

end SortPropsOptions

/-- A type of options in JSON. -/
structure OptionFormat (σ : Type) where
  schema : Schema σ
  toJson : σ → Json

namespace RuleName

def optionFormat : (r : RuleName) → OptionFormat r.Options
  | .jsxBanElements => ⟨BanElementsOptions.schema, BanElementsOptions.toJson⟩
  | .jsxBanProps => ⟨BanPropsOptions.schema, BanPropsOptions.toJson⟩
  | .jsxBooleanValue => ⟨BooleanValueOptions.schema, BooleanValueOptions.toJson⟩
  | .jsxCurlyBracePresence => ⟨BracePresenceOptions.schema, BracePresenceOptions.toJson⟩
  | .jsxCurlySpacing => ⟨SpacingOptions.schema "JsxCurlySpacingConfig", SpacingOptions.toJson⟩
  | .jsxEqualsSpacing => ⟨SpacingOptions.schema "JsxEqualsSpacingConfig", SpacingOptions.toJson⟩
  | .jsxPreferFragment => ⟨PreferFragmentOptions.schema, PreferFragmentOptions.toJson⟩
  | .jsxSortProps => ⟨SortPropsOptions.schema, SortPropsOptions.toJson⟩
  | .componentNoProptypes | .jsxAlignment | .jsxKey | .jsxNamedPropInterface
  | .jsxNoArrayLiteralProps | .jsxNoBind | .jsxNoBindProps | .jsxNoJsxLiteralProps | .jsxNoLambda
  | .jsxNoLambdaProps | .jsxNoMethodRef | .jsxNoMultilineJs | .jsxNoObjectLiteralProps
  | .jsxNoStringRef | .jsxPropSorting | .jsxSelfClose | .jsxSpaceBeforeTrailingSlash
  | .jsxUseTranslationFunction | .jsxWhitespaceLiteral | .jsxWrapMulitlines | .jsxWrapMultiline
  | .noAccessStateInSetstate | .noStringRef | .reactComponentClassesShouldImplementScu
  | .reactNoUnnecessaryFragment | .reactPureComponentsHavePrimitiveAttributes
  | .reactPureComponentsHaveSimpleAttributes => ⟨NoOptions.schema, NoOptions.toJson⟩

def readOptions (r : RuleName) : OptionReader r.Options := r.optionFormat.schema.read

def writeOptions (r : RuleName) (options : r.Options) : Json := r.optionFormat.toJson options

/-- The options a rule has when none are given. -/
def defaultOptions (r : RuleName) : r.Options := r.optionFormat.schema.start

end RuleName

end JsxCheck
