import JsxCheck.Source.Dialect
import JsxCheck.Source.Lines

/-!
Documents: a text with what rules may ask about it besides its tree.
-/
namespace JsxCheck

structure Document where
  source : Source
  dialect : Dialect
  /-- Where the text was read from, when that is known. -/
  path : Option String
  lines : LineIndex
  /-- Spans of the comments, in source order. -/
  comments : List Span
  deriving Inhabited

namespace Document

def ofText (text : String) (dialect : Dialect) (path : Option String) (comments : List Span) :
    Document :=
  let source := Source.mk text
  ⟨source, dialect, path, .ofSource source, comments⟩

def text (d : Document) (span : Span) : String := d.source.slice span

def line (d : Document) (offset : Nat) : Nat := d.lines.line offset

def column (d : Document) (offset : Nat) : Nat := d.lines.column offset

/-- The span starts and ends on different lines. -/
def isMultiline (d : Document) (span : Span) : Bool := d.line span.start != d.line span.stop

end Document

end JsxCheck
