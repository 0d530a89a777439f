import JsxCheck.Grammar.Program
import JsxCheck.Proofs.Source.Comments
import JsxCheck.Proofs.Syntax.Placed

/-!
Programs that are faithful to a text: their trees stand in it, and their comments are those it has.
-/
namespace JsxCheck

/-- The value of an attribute begins with a quote, a brace or a tag. -/
def Attribute.Introduced (source : Source) (a : Attribute) : Prop :=
  ∀ value ∈ a.value, source.byte? value.span.start ∈ [some 34, some 39, some 123, some 60]

/-- The tree and the comments of a program are those of a text. -/
structure Program.Faithful (source : Source) (p : Program) : Prop where
  placed : p.root.WellPlaced source
  delimited : p.root.WellDelimited source
  commented : source.Commented p.comments
  introduced : ∀ n ∈ p.root.preorder, ∀ o ∈ n.opening?, ∀ a ∈ o.attributes, a.Introduced source

instance (source : Source) (comments : List Span) : Decidable (source.Commented comments) :=
  decidable_of_iff
    ((comments.Pairwise fun a b => a.stop ≤ b.start) ∧ (∀ c ∈ comments, source.Sliceable c)
      ∧ (∀ c ∈ comments, c.start + 2 ≤ c.stop)
      ∧ ∀ c ∈ comments, source.IsLineComment c ∨ source.IsBlockComment c)
    ⟨fun ⟨a, b, c, d⟩ => ⟨a, b, c, d⟩, fun ⟨a, b, c, d⟩ => ⟨a, b, c, d⟩⟩

instance (source : Source) (a : Attribute) : Decidable (a.Introduced source) :=
  inferInstanceAs (Decidable (∀ value ∈ a.value, _))

instance (source : Source) (p : Program) : Decidable (p.Faithful source) :=
  decidable_of_iff
    (p.root.WellPlaced source ∧ p.root.WellDelimited source ∧ source.Commented p.comments
      ∧ ∀ n ∈ p.root.preorder, ∀ o ∈ n.opening?, ∀ a ∈ o.attributes, a.Introduced source)
    ⟨fun ⟨a, b, c, d⟩ => ⟨a, b, c, d⟩, fun ⟨a, b, c, d⟩ => ⟨a, b, c, d⟩⟩

namespace Attribute.Introduced

variable {source : Source} {a : Attribute} {value : Node}

/-- A value begins with one byte, which ends no line. -/
theorem char? (introduced : a.Introduced source) (given : a.value = some value) :
    ∃ x, source.char? value.span.start = some x ∧ x.utf8Size = 1 ∧ isLineTerminator x = false := by
  have first := introduced value given
  simp only [List.mem_cons, List.not_mem_nil, or_false] at first
  rcases first with quote | quote | brace | tag
  · exact ⟨'"', Source.char?_eq_of_byte? quote (by decide) (by decide), by decide, by decide⟩
  · exact ⟨'\'', Source.char?_eq_of_byte? quote (by decide) (by decide), by decide, by decide⟩
  · exact ⟨'\x7b', Source.char?_eq_of_byte? brace (by decide) (by decide), by decide, by decide⟩
  · exact ⟨'<', Source.char?_eq_of_byte? tag (by decide) (by decide), by decide, by decide⟩

theorem isBoundary (introduced : a.Introduced source) (given : a.value = some value) :
    source.isBoundary value.span.start = true ∧ source.isBoundary (value.span.start + 1) = true := by
  obtain ⟨x, first, single, _⟩ := introduced.char? given
  exact ⟨Source.isBoundary_of_char? first, (Source.isBoundary_succ_iff first).mpr single⟩

end Attribute.Introduced

end JsxCheck
