import JsxCheck.Proofs.Fix.Text
import JsxCheck.Proofs.Lint.Isolation
import JsxCheck.Proofs.Rule.Applicable

/-!
The fixes of a report.

`check_fixes_applicable` says that the fixes of every diagnostic can be made, with any configuration:
they lie in the text and beside each other, and making them in any order gives one text.
-/
namespace JsxCheck

namespace Config

theorem check_applicable (c : Config) {doc : Document} {root : Node}
    (placed : root.WellPlaced doc.source) (delimited : root.WellDelimited doc.source) :
    ∀ d ∈ (c.check doc root).diagnostics, d.Applicable doc.source := by
  intro d reported
  rw [check, Walk.findings_eq] at reported
  obtain ⟨v, visited, said⟩ := List.mem_flatMap.mp reported
  have inside := Visit.node_mem_preorder visited
  rw [checkVisit_eq] at said
  obtain ⟨r, _, said⟩ := List.mem_flatMap.mp said
  unfold say at said
  split at said
  · exact r.check_applicable _ v.position (placed.of_mem inside) (delimited.of_mem inside) d said
  · cases said

/-- Let a tree be well placed in a text that has its tags and braces. With any configuration, and
whatever the comments are, the fixes of a diagnostic lie in the text, split no character and do not
overlap. Made together they give one text, in whichever order. -/
theorem check_fixes_applicable (c : Config) {doc : Document} {root : Node}
    (placed : root.WellPlaced doc.source) (delimited : root.WellDelimited doc.source) :
    ∀ d ∈ (c.check doc root).diagnostics,
      (∀ f ∈ d.fixes, f.span.start ≤ f.span.stop ∧ f.span.stop ≤ doc.source.size ∧
        doc.source.isBoundary f.span.start = true ∧ doc.source.isBoundary f.span.stop = true) ∧
      (d.fixes.Pairwise fun f g => f.span.stop ≤ g.span.start ∨ g.span.stop ≤ f.span.start) ∧
      ∃ text : String, ∀ order, order.Perm d.fixes →
        Fix.applyAll order doc.source.bytes = (Source.mk text).bytes := by
  intro d reported
  obtain ⟨sliceable, clear⟩ := c.check_applicable placed delimited d reported
  refine ⟨?_, clear.imp fun apart => apart.imp (·.1) (·.1), ?_⟩
  · intro f member
    have here := sliceable f member
    exact ⟨here.ordered, here.bounded, here.starts, here.stops⟩
  · obtain ⟨t, made⟩ := Fix.exists_text_applyAll clear sliceable
    refine ⟨t.text, fun order perm => ?_⟩
    have fit : ∀ f ∈ d.fixes, f.Fits doc.source.bytes :=
      fun f member => Fix.fits_of_sliceable (sliceable f member)
    rw [made, Fix.applyAll_perm perm.symm clear fit]

/-- A text with characters of several bytes around what is to be fixed. -/
def accentedText : String := "<div>é<B c= \x7b\"ü\"\x7d></B>ö&nbsp;</div>"

set_option maxRecDepth 100000 in
theorem check_fixes_applicable_of_accentedText :
    ∃ program, Program.parse ⟨accentedText⟩ .tsx = .ok program ∧
      program.root.WellPlaced ⟨accentedText⟩ ∧ program.root.WellDelimited ⟨accentedText⟩ ∧
      ∃ d ∈ (all.check (.ofText accentedText .tsx none program.comments) program.root).diagnostics,
        d.fixes.length = 2 ∧
        (∀ f ∈ d.fixes, f.span.start ≤ f.span.stop ∧ f.span.stop ≤ (Source.mk accentedText).size ∧
          (Source.mk accentedText).isBoundary f.span.start = true ∧
          (Source.mk accentedText).isBoundary f.span.stop = true) ∧
        (d.fixes.Pairwise fun f g => f.span.stop ≤ g.span.start ∨ g.span.stop ≤ f.span.start) ∧
        ∃ text : String, ∀ order, order.Perm d.fixes →
          Fix.applyAll order (Source.mk accentedText).bytes = (Source.mk text).bytes := by
  have parsed : ∃ program, Program.parse ⟨accentedText⟩ .tsx = .ok program ∧
      program.root.WellPlaced ⟨accentedText⟩ ∧ program.root.WellDelimited ⟨accentedText⟩ ∧
      ∃ d ∈ (all.check (.ofText accentedText .tsx none program.comments) program.root).diagnostics,
        d.fixes.length = 2 :=
    Program.exists_parse (by decide +kernel)
  obtain ⟨program, parse, placed, delimited, d, reported, two⟩ := parsed
  exact ⟨program, parse, placed, delimited, d, reported, two,
    all.check_fixes_applicable placed delimited d reported⟩

end Config

end JsxCheck
