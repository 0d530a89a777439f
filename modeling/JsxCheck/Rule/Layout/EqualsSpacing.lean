import JsxCheck.Rule.Options
import JsxCheck.Source.Document
import JsxCheck.Source.Gap
import JsxCheck.Syntax.Element

/-!
Space around the `=` of an attribute.
-/
namespace JsxCheck.Rule

namespace EqualsSpacing

def warning (span : Span) (message : String) (fix : Fix) : Diagnostic :=
  (RuleName.jsxEqualsSpacing.warning span message).addFix fix

/-- The byte before the `=` at an offset. -/
def before (equals : Nat) : Span := ⟨equals - 1, equals⟩

/-- The byte after the `=` at an offset. -/
def after (equals : Nat) : Span := ⟨equals + 1, equals + 2⟩

/-- What is wrong with the space between a name that ends at `nameStop`, the `=` and a value. -/
def around (usage : Usage) (doc : Document) (nameStop equals valueStart : Nat) :
    List Diagnostic :=
  let gapBefore := whitespaceGap doc.source doc.comments nameStop equals
  let gapAfter := whitespaceGap doc.source doc.comments (equals + 1) valueStart
  match usage with
  | .always =>
    (if gapBefore.isNone then
      [warning ⟨equals, equals + 1⟩ "A space is required before '='" (.insert nameStop " ")]
    else [])
    ++ if gapAfter.isNone then
      [warning (after equals) "A space is required after '='" (.insert (equals + 1) " ")]
    else []
  | .never =>
    (gapBefore.toList.map fun gap =>
      warning (before equals) "There should be no space before '='" ⟨gap.span, gap.comments, none⟩)
    ++ gapAfter.toList.map fun gap =>
      warning (after equals) "There should be no space after '='" ⟨gap.span, gap.comments, none⟩

/-- What is wrong with the `=` of one attribute. -/
def ofAttribute (usage : Usage) (doc : Document) (a : Attribute) : List Diagnostic :=
  match a.value with
  | none => []
  | some value =>
    match findToken doc.source doc.comments a.nameSpan.stop value.span.start "=" with
    | none => []
    | some equals => around usage doc a.nameSpan.stop equals value.span.start

end EqualsSpacing

def equalsSpacing (options : SpacingOptions) (doc : Document) (o : Opening) : List Diagnostic :=
  match options.spacing with
  | none => []
  | some usage => o.attributes.flatMap (EqualsSpacing.ofAttribute usage doc)

end JsxCheck.Rule
