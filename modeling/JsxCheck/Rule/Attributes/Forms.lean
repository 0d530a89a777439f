import JsxCheck.Rule.Options
import JsxCheck.Source.Document
import JsxCheck.Syntax.Element

/-!
How the values of attributes are written: truth values, and strings with or without braces.
-/
namespace JsxCheck.Rule

/-- The value of one attribute, when it should be written the other way. -/
def booleanValueOf (usage : Usage) (a : Attribute) : List Diagnostic :=
  match usage with
  | .always =>
    if a.value.isNone then
      [(RuleName.jsxBooleanValue.warning a.span "Value must be set for boolean attributes").addFix
        ((Fix.insert a.span.stop "=\x7btrue\x7d").withMessage "Set value to true")]
    else []
  | .never =>
    match a.expression?.bind Node.expr? with
    | some (.boolean true) =>
      [(RuleName.jsxBooleanValue.warning a.span
        "Value must be omitted for boolean attributes").addFix
          ((Fix.delete ⟨a.nameSpan.stop, a.span.stop⟩).withMessage "Remove the value")]
    | _ => []

/-- Attributes that are true are written `name={true}`, or else `name`. -/
def booleanValue (options : BooleanValueOptions) (o : Opening) : List Diagnostic :=
  o.attributes.flatMap (booleanValueOf options.value)

/-- The string an attribute would be given without braces: a string literal as it is written, or
the text of a template that holds no expressions, in double quotes. -/
def unbraced? (doc : Document) (e : Node) : Option String :=
  match e with
  | .mk (.expr (.string _)) span _ => some (doc.text span)
  | .mk (.expr .template) _ [.mk (.templateChunk cooked) _ _] => some ("\"" ++ cooked ++ "\"")
  | _ => none

/-- The braces of one attribute, when they are missing or not needed. -/
def bracePresenceOf (usage : Usage) (doc : Document) (a : Attribute) : List Diagnostic :=
  match usage with
  | .always =>
    match a.string? with
    | none => []
    | some (span, _) =>
      [(RuleName.jsxCurlyBracePresence.warning span
        "JSX attribute must have curly braces around string literal").addFix
          ⟨span, "\x7b" ++ doc.text span ++ "\x7d", none⟩]
  | .never =>
    match a.container?, a.expression?.bind (unbraced? doc) with
    | some container, some text =>
      [(RuleName.jsxCurlyBracePresence.warning container.span
        "JSX attribute must NOT have curly braces around string literal").addFix
          ⟨container.span, text, none⟩]
    | _, _ => []

/-- Strings given to attributes stand in braces, or else do not. -/
def bracePresence (options : BracePresenceOptions) (doc : Document) (o : Opening) :
    List Diagnostic :=
  o.attributes.flatMap (bracePresenceOf options.props doc)

end JsxCheck.Rule
