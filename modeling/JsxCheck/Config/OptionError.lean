import JsxCheck.Json.Value
import JsxCheck.Text.Quoted

/-!
What can be wrong with the options given to a rule.
-/
namespace JsxCheck

inductive OptionError where
  /-- A value of another type than the one asked for. -/
  | invalidType (found : Json) (expected : String)
  | invalidLength (length : Nat) (expected : String)
  | unknownField (name : String)
  | missingField (name : String)
  | unknownVariant (name : String) (known : List String)
  /-- An object that should name one variant and names none or several. -/
  | notSingleKey
  deriving Inhabited

/-- What a value is, in the words of a message. -/
def Json.describe : Json → String
  | .null => "null"
  | .bool value => "boolean `" ++ (if value then "true" else "false") ++ "`"
  | .integer value => "integer `" ++ toString value ++ "`"
  | .decimal value => "floating point `" ++ value.text ++ "`"
  | .string value => "string " ++ quoted value
  | .array _ => "sequence"
  | .object _ => "map"

namespace OptionError

/-- Names in backquotes, as alternatives. -/
def listNames : List String → String
  | [first, second] => "`" ++ first ++ "` or `" ++ second ++ "`"
  | names => "one of " ++ String.intercalate ", " (names.map fun name => "`" ++ name ++ "`")

def message : OptionError → String
  | invalidType found expected => "invalid type: " ++ found.describe ++ ", expected " ++ expected
  | invalidLength length expected =>
    "invalid length " ++ toString length ++ ", expected " ++ expected
  | unknownField name => "unknown field `" ++ name ++ "`, there are no fields"
  | missingField name => "missing field `" ++ name ++ "`"
  | unknownVariant name known => "unknown variant `" ++ name ++ "`, expected " ++ listNames known
  | notSingleKey => "invalid value: map, expected map with a single key"

end OptionError

end JsxCheck
