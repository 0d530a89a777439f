import JsxCheck.Config.OptionFormat
import JsxCheck.Json.Reader
import JsxCheck.Pattern.Reader

/-!
Which rules run, and with which options.

A configuration gives every rule its options or switches it off. Settings are JSON: `true` and
`false` switch a rule on and off, `null` switches it off, and anything else is its options. Which
texts are patterns is a parameter of `enterWith` and `setWith`.
-/
namespace JsxCheck

/-- The options of each rule that runs. -/
structure Config where
  setting : (r : RuleName) → Option r.Options

inductive ConfigError where
  | unknownRule (name : String)
  | invalidOptions (rule : RuleName) (cause : OptionError)
  /-- A ban of elements is not given by a pattern. -/
  | invalidPattern (pattern : String)
  | notAnObject
  | notJson
  deriving Inhabited

namespace ConfigError

def message : ConfigError → String
  | unknownRule name => "unknown rule `" ++ name ++ "`"
  | invalidOptions rule cause =>
    "invalid options for rule `" ++ rule.text ++ "`: " ++ cause.message
  | invalidPattern pattern =>
    "invalid pattern `" ++ pattern ++ "` for rule `" ++ RuleName.jsxBanElements.text ++ "`"
  | notAnObject => "rules configuration must be a JSON object"
  | notJson => "rules configuration is not JSON"

end ConfigError

namespace RuleName

/-- Rules that run when nothing is said about them. -/
def isRecommended : RuleName → Bool
  | .jsxAlignment | .jsxCurlyBracePresence | .jsxKey | .jsxNoBind | .jsxNoLambda | .jsxNoStringRef
  | .jsxSelfClose | .jsxSpaceBeforeTrailingSlash | .jsxWhitespaceLiteral | .jsxWrapMultiline
  | .noAccessStateInSetstate | .reactNoUnnecessaryFragment => true
  | _ => false

/-- The first ban of elements that is not given by a pattern. -/
def badPattern? (isPattern : String → Bool) : (r : RuleName) → r.Options → Option String
  | .jsxBanElements, options =>
    (options.bans.find? fun ban => !isPattern ban.pattern).map ElementBan.pattern
  | _, _ => none

/-- The setting of a rule that a JSON value gives, for some choice of patterns. -/
def readSetting (isPattern : String → Bool) (r : RuleName) :
    Json → Except ConfigError (Option r.Options)
  | .null | .bool false => .ok none
  | .bool true => .ok (some r.defaultOptions)
  | value =>
    match r.readOptions value with
    | .error cause => .error (.invalidOptions r cause)
    | .ok options =>
      match r.badPattern? isPattern options with
      | some pattern => .error (.invalidPattern pattern)
      | none => .ok (some options)

end RuleName

namespace Config

def empty : Config := ⟨fun _ => none⟩

def all : Config := ⟨fun r => some r.defaultOptions⟩

def recommended : Config := ⟨fun r => if r.isRecommended then some r.defaultOptions else none⟩

/-- The configuration with another setting for one rule. -/
def put (c : Config) (r : RuleName) (setting : Option r.Options) : Config :=
  ⟨fun s => if h : r = s then h ▸ setting else c.setting s⟩

def enable (c : Config) (r : RuleName) : Config := c.put r (some r.defaultOptions)

def isEnabled (c : Config) (r : RuleName) : Bool := (c.setting r).isSome

/-- The rules that run, in order of their names. -/
def enabledRules (c : Config) : List RuleName := RuleName.all.filter c.isEnabled

/-- Some rule that runs needs to know what names refer to. -/
def needsResolution (c : Config) : Bool :=
  c.isEnabled .jsxNoMethodRef || c.isEnabled .reactPureComponentsHaveSimpleAttributes

/-- Enters a setting under the name of a rule, for some choice of patterns. An entry may be refused;
what it wrote to the configuration before that stays written. -/
def enterWith (isPattern : String → Bool) (name : String) (value : Json) :
    ExceptT ConfigError (StateM Config) Unit :=
  match RuleName.ofText? name with
  | none => throw (.unknownRule name)
  | some r => do
    let setting ← liftExcept (r.readSetting isPattern value)
    modify (·.put r setting)

/-- Enters a setting under the name of a rule. -/
def enter : String → Json → ExceptT ConfigError (StateM Config) Unit := enterWith Pattern.isSpelled

/-- Entries made one after the other, also behind one that is refused: what came of each, and the
configuration in the end. -/
def enterAll (c : Config) : List (String × Json) → List (Except ConfigError Unit) × Config
  | [] => ([], c)
  | (name, value) :: rest =>
    let (outcome, next) := (enter name value).run.run c
    let (outcomes, final) := next.enterAll rest
    (outcome :: outcomes, final)

/-- The configuration after one entry, a rule's name with its setting, for some choice of patterns. -/
def setWith (isPattern : String → Bool) (c : Config) (name : String) (value : Json) :
    Except ConfigError Config :=
  match (enterWith isPattern name value).run.run c with
  | (.ok _, next) => .ok next
  | (.error e, _) => .error e

/-- The configuration after one entry. -/
def set (c : Config) (name : String) (value : Json) : Except ConfigError Config :=
  c.setWith Pattern.isSpelled name value

/-- The configuration after entries in order, up to the first that is refused. -/
def setAll (c : Config) : List (String × Json) → Except ConfigError Config
  | [] => .ok c
  | (name, value) :: rest =>
    match c.set name value with
    | .ok next => next.setAll rest
    | .error e => .error e

/-- The recommended configuration after the entries of an object. -/
def ofJson : Json → Except ConfigError Config
  | .object entries => recommended.setAll entries
  | _ => .error .notAnObject

def parse (text : String) : Except ConfigError Config :=
  match Json.parse? text with
  | some json => ofJson json
  | none => .error .notJson

end Config

end JsxCheck
