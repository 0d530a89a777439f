import JsxCheck.Json.Value
import JsxCheck.Rule.Name

/-!
Descriptions of the rules, for hosts to show.
-/
namespace JsxCheck

/-- What a rule is about. -/
inductive Category where
  /-- Likely bugs and slow renders. -/
  | functionality
  /-- Components that are easy to read and change. -/
  | maintainability
  /-- Formatting and layout. -/
  | style
  /-- What makes sense for TypeScript only. -/
  | typescript
  deriving DecidableEq, Inhabited, Repr

def Category.text : Category → String
  | .functionality => "functionality"
  | .maintainability => "maintainability"
  | .style => "style"
  | .typescript => "typescript"

namespace RuleName

def category : RuleName → Category
  | .jsxNamedPropInterface | .jsxPropSorting | .jsxSortProps => .maintainability
  | .jsxAlignment | .jsxBooleanValue | .jsxCurlyBracePresence | .jsxCurlySpacing
  | .jsxEqualsSpacing | .jsxNoMultilineJs | .jsxPreferFragment | .jsxSelfClose
  | .jsxSpaceBeforeTrailingSlash | .jsxWrapMulitlines | .jsxWrapMultiline
  | .reactNoUnnecessaryFragment => .style
  | _ => .functionality

/-- What a rule checks, in a sentence. -/
def description : RuleName → String
  | .componentNoProptypes =>
    "Forbids `propTypes` on components; use a TypeScript props interface instead."
  | .jsxAlignment =>
    "Enforces a consistent layout for the attributes and closing of multiline JSX tags."
  | .jsxBanElements => "Bans specific JSX elements from being used."
  | .jsxBanProps => "Bans the use of specific props."
  | .jsxBooleanValue => "Enforce boolean attribute notation in jsx."
  | .jsxCurlyBracePresence =>
    "Enforce curly braces or disallow unnecessary curly braces in JSX props"
  | .jsxCurlySpacing => "Checks JSX curly braces spacing"
  | .jsxEqualsSpacing => "Disallow or enforce spaces around equal signs in JSX attributes"
  | .jsxKey =>
    "Warn if an element that likely requires a key prop, namely one present in an array "
      ++ "literal or an arrow function expression."
  | .jsxNamedPropInterface => "Enforce a consistent naming convention for prop type"
  | .jsxNoArrayLiteralProps => "Checks for array literal used in JSX attributes"
  | .jsxNoBind =>
    "Forbids function binding in JSX attributes. This has the same intent as jsx-no-lambda "
      ++ "in helping you avoid excessive re-renders."
  | .jsxNoBindProps => "Forbids function binding in JSX attributes and spread props."
  | .jsxNoJsxLiteralProps => "Checks for JSX elements created in JSX attributes"
  | .jsxNoLambda => "Checks for fresh lambda literals used in JSX attributes"
  | .jsxNoLambdaProps => "Checks for lambda expressions used in JSX attributes"
  | .jsxNoMethodRef => "Forbid method references in JSX attributes, as they lose `this`."
  | .jsxNoMultilineJs =>
    "Disallows multiline JS expressions inside JSX blocks to promote readability"
  | .jsxNoObjectLiteralProps => "Checks for object literal used in JSX attributes"
  | .jsxNoStringRef =>
    "Passing strings to the 'ref' prop of React elements is considered a legacy feature "
      ++ "and will soon be deprecated. Instead, use a callback."
  | .jsxPreferFragment => "Prefer React.Fragment over a wrapping div without attributes"
  | .jsxPropSorting => "Checks if the props in an interface are alphabetized"
  | .jsxSelfClose => "Checks that JSX elements with no children are self-closing"
  | .jsxSortProps =>
    "Requires props in JSX elements to be sorted alphabetically, and grouped as specified"
  | .jsxSpaceBeforeTrailingSlash =>
    "Checks that self-closing JSX elements have a space before '/>'"
  | .jsxUseTranslationFunction =>
    "Enforces use of a translation function. Most plain string literals are disallowed in "
      ++ "JSX when enabled."
  | .jsxWhitespaceLiteral =>
    "Warn if '&nbsp;' is used in JSX markup. Prefer \x7b\" \"\x7d over '&nbsp;'"
  | .jsxWrapMulitlines => "Checks that multiline JSX elements are wrapped in parens"
  | .jsxWrapMultiline => "Checks that multiline JSX elements are wrapped in parens"
  | .noAccessStateInSetstate => "Reports usage of this.state within setState"
  | .noStringRef => "Using string literals in ref attributes is deprecated."
  | .reactComponentClassesShouldImplementScu =>
    "Enforces that React component classes implement shouldComponentUpdate or extend "
      ++ "PureComponent."
  | .reactNoUnnecessaryFragment => "Warn if unnecessary fragment is used"
  | .reactPureComponentsHavePrimitiveAttributes =>
    "Warns when a pure component has non-primitive properties."
  | .reactPureComponentsHaveSimpleAttributes =>
    "Warns when a pure component has complex properties."

/-- The rule attaches fixes to what it reports. -/
def hasFix : RuleName → Bool
  | .jsxBooleanValue | .jsxCurlyBracePresence | .jsxCurlySpacing | .jsxEqualsSpacing
  | .jsxPreferFragment | .jsxSelfClose | .jsxSpaceBeforeTrailingSlash | .jsxWhitespaceLiteral => true
  | _ => false

/-- The rule needs to know what names refer to. -/
def requiresTypeInfo : RuleName → Bool
  | .jsxNoMethodRef | .reactPureComponentsHaveSimpleAttributes => true
  | _ => false

/-- Settings under which a rule may be given, as JSON texts. -/
def optionExamples : RuleName → List String
  | .jsxBanElements => [
    "\x7b \"bans\": [\x7b \"pattern\": \"^Object$\", \"message\": \"Use \x7b\x7d instead.\" \x7d, "
      ++ "\x7b \"pattern\": \"String\" \x7d] \x7d"]
  | .jsxBanProps => [
    "\x7b \"props\": [\x7b \"name\": \"someProp\" \x7d, "
      ++ "\x7b \"name\": \"anotherProp\", \"message\": \"Optional explanation\" \x7d] \x7d"]
  | .jsxBooleanValue => ["\x7b \"value\": \"always\" \x7d", "\x7b \"value\": \"never\" \x7d"]
  | .jsxCurlyBracePresence => ["\x7b \"props\": \"always\" \x7d", "\x7b \"props\": \"never\" \x7d"]
  | .jsxCurlySpacing | .jsxEqualsSpacing => [
    "\x7b \"spacing\": \"always\" \x7d", "\x7b \"spacing\": \"never\" \x7d"]
  | .jsxPreferFragment => ["true", "\x7b \"noSyntaxSugar\": true \x7d"]
  | .jsxSortProps => [
    "true", "\x7b \"ignoreCase\": true \x7d",
    "\x7b \"ignoreCase\": true, \"order\": [\"spread\", \"shorthand\"] \x7d"]
  | _ => ["true"]

/-- A schema of objects with the given properties. -/
def objectSchema (properties : List (String × Json)) (more : List (String × Json)) : Json :=
  .ofFields ([("type", .string "object"), ("properties", .ofFields properties)] ++ more)

/-- A schema of values of a plain type. -/
def typeSchema (type : String) : Json := .ofFields [("type", .string type)]

/-- A schema of some strings. -/
def enumSchema (values : List String) : Json :=
  .ofFields [("enum", .array (values.map .string)), ("type", .string "string")]

/-- A schema of lists of bans, each with a required key. -/
def bansSchema (property key : String) : Json :=
  let item := objectSchema [(key, typeSchema "string"), ("message", typeSchema "string")]
    [("required", .array [.string key])]
  objectSchema [(property, .ofFields [("type", .string "array"), ("items", item)])] []

/-- A schema of a rule's options, null when it takes none. -/
def optionSchema : RuleName → Json
  | .jsxBanElements => bansSchema "bans" "pattern"
  | .jsxBanProps => bansSchema "props" "name"
  | .jsxBooleanValue => objectSchema [("value", enumSchema ["always", "never"])] []
  | .jsxCurlyBracePresence => objectSchema [("props", enumSchema ["always", "never"])] []
  | .jsxCurlySpacing | .jsxEqualsSpacing =>
    objectSchema [("spacing", enumSchema ["always", "never"])] []
  | .jsxPreferFragment => objectSchema [("noSyntaxSugar", typeSchema "boolean")] []
  | .jsxSortProps =>
    let order := Json.ofFields [
      ("type", .string "array"), ("items", enumSchema ["spread", "shorthand", "longhand"]),
      ("maxLength", .integer 3)]
    objectSchema [("ignoreCase", typeSchema "boolean"), ("order", order)] []
  | _ => .null

/-- Where a rule is documented. -/
def docsUrl (r : RuleName) : String := "https://github.com/palantir/tslint-react#" ++ r.text

end RuleName

end JsxCheck
