import JsxCheck.Diagnostic

/-!
Reports: the diagnostics of one or more passes over a program.

Merging appends a second pass and sorts by start. The sort is stable, so diagnostics at one offset
keep the order in which they were reported.
-/
namespace JsxCheck

structure Report where
  diagnostics : List Diagnostic := []
  deriving DecidableEq, Inhabited, Repr

namespace Report

def countOf (severity : Severity) (r : Report) : Nat :=
  r.diagnostics.countP (·.severity == severity)

def errorCount (r : Report) : Nat := r.countOf .error

def warningCount (r : Report) : Nat := r.countOf .warning

def hasErrors (r : Report) : Bool := r.diagnostics.any (·.severity == .error)

/-- Anything was reported, whatever its severity. -/
def hasWarnings (r : Report) : Bool := !r.diagnostics.isEmpty

/-- Both passes, ordered by where their diagnostics start. -/
def merge (first second : Report) : Report :=
  ⟨(first.diagnostics ++ second.diagnostics).mergeSort (·.span.start ≤ ·.span.start)⟩

end Report

end JsxCheck
