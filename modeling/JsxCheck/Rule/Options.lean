import JsxCheck.Rule.Name

/-!
Options of the rules.

Every record of options has a value for each field when nothing is given, and these values are what
a rule runs with when it is merely switched on.
-/
namespace JsxCheck

/-- Whether something is written everywhere or nowhere. -/
inductive Usage where
  | always | never
  deriving DecidableEq, Inhabited, Repr

/-- How an attribute is written. -/
inductive PropKind where
  /-- `{...props}` -/
  | spread
  /-- `disabled` -/
  | shorthand
  /-- `value={x}` -/
  | longhand
  deriving DecidableEq, Inhabited, Repr

def PropKind.text : PropKind → String
  | .spread => "spread"
  | .shorthand => "shorthand"
  | .longhand => "longhand"

/-- Options of a rule that takes none. -/
structure NoOptions where
  deriving DecidableEq, Inhabited, Repr

/-- A pattern of tag names that are banned, and why. -/
structure ElementBan where
  pattern : String
  message : Option String := none
  deriving DecidableEq, Inhabited, Repr

structure BanElementsOptions where
  bans : List ElementBan := []
  deriving DecidableEq, Inhabited, Repr

/-- A property that is banned, and why. -/
structure PropBan where
  name : String
  message : Option String := none
  deriving DecidableEq, Inhabited, Repr

structure BanPropsOptions where
  props : List PropBan := []
  deriving DecidableEq, Inhabited, Repr

structure BooleanValueOptions where
  /-- Whether `={true}` is written out. -/
  value : Usage := .always
  deriving DecidableEq, Inhabited, Repr

structure BracePresenceOptions where
  /-- Whether string attributes are put in braces. -/
  props : Usage := .never
  deriving DecidableEq, Inhabited, Repr

structure SpacingOptions where
  /-- Whether space is written; when unset nothing is reported. -/
  spacing : Option Usage := none
  deriving DecidableEq, Inhabited, Repr

structure PreferFragmentOptions where
  /-- Fix to `<React.Fragment>` instead of `<>`. -/
  noSyntaxSugar : Bool := false
  deriving DecidableEq, Inhabited, Repr

structure SortPropsOptions where
  ignoreCase : Bool := false
  /-- Order of the kinds; those not listed have no rank. -/
  order : Option (List PropKind) := none
  deriving DecidableEq, Inhabited, Repr

@[reducible]
def RuleName.Options : RuleName → Type
  | .jsxBanElements => BanElementsOptions
  | .jsxBanProps => BanPropsOptions
  | .jsxBooleanValue => BooleanValueOptions
  | .jsxCurlyBracePresence => BracePresenceOptions
  | .jsxCurlySpacing => SpacingOptions
  | .jsxEqualsSpacing => SpacingOptions
  | .jsxPreferFragment => PreferFragmentOptions
  | .jsxSortProps => SortPropsOptions
  | _ => NoOptions

end JsxCheck
