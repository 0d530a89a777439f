import JsxCheck.Source.Span

/-!
Diagnostics and the fixes they suggest.
-/
namespace JsxCheck

inductive Severity where
  | error | warning | info | hint
  deriving DecidableEq, Inhabited, Repr

def Severity.name : Severity → String
  | .error => "error"
  | .warning => "warning"
  | .info => "info"
  | .hint => "hint"

/-- A replacement of the text under a span. All fixes of a diagnostic are made together. -/
structure Fix where
  span : Span
  replacement : String
  message : Option String := none
  deriving DecidableEq, Inhabited, Repr

namespace Fix

def insert (offset : Nat) (text : String) : Fix := ⟨.point offset, text, none⟩

def delete (span : Span) : Fix := ⟨span, "", none⟩

def withMessage (fix : Fix) (message : String) : Fix := { fix with message := some message }

def width (fix : Fix) : Nat := fix.span.width

/-- Nothing is replaced. -/
def isInsertion (fix : Fix) : Bool := fix.span.isEmpty

end Fix

/-- A remark on a related place. -/
structure Label where
  span : Span
  text : String
  deriving DecidableEq, Inhabited, Repr

/-- What a rule has to say about a span. -/
structure Diagnostic where
  rule : String
  span : Span
  message : String
  help : Option String := none
  severity : Severity := .warning
  labels : List Label := []
  fixes : List Fix := []
  deriving DecidableEq, Inhabited, Repr

namespace Diagnostic

def width (d : Diagnostic) : Nat := d.span.width

def withHelp (d : Diagnostic) (help : String) : Diagnostic := { d with help := some help }

def withSeverity (d : Diagnostic) (severity : Severity) : Diagnostic := { d with severity }

def addLabel (d : Diagnostic) (label : Label) : Diagnostic :=
  { d with labels := d.labels ++ [label] }

def addFix (d : Diagnostic) (fix : Fix) : Diagnostic := { d with fixes := d.fixes ++ [fix] }

def addFixes (d : Diagnostic) (fixes : List Fix) : Diagnostic :=
  { d with fixes := d.fixes ++ fixes }

end Diagnostic

end JsxCheck
