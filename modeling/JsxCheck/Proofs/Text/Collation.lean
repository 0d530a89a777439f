import JsxCheck.Text.Collation
import Mathlib.Data.List.Basic

/-!
The order of texts is a total preorder.

Weights are compared as lists are, and a level when the ones before it do not differ. So two texts can be
compared either way round, and what is not greater than a text is not greater than what that text is not
greater than (`compare_transCmp`). Without a collator texts are in the order of their characters, so
`order_transCmp` asks nothing more than that of the collator.
-/
namespace JsxCheck.Collation

theorem compareWeights_eq_compareLex (as bs : List Nat) :
    compareWeights as bs = List.compareLex Ord.compare as bs := by
  induction as generalizing bs with
  | nil => cases bs <;> rfl
  | cons a as ih =>
    cases bs with
    | nil => rfl
    | cons b bs =>
      rw [compareWeights, ih, List.compareLex_cons_cons]
      rcases Nat.lt_trichotomy a b with less | rfl | greater
      · rw [if_pos less, Nat.compare_eq_lt.mpr less]
        rfl
      · rw [if_neg (Nat.lt_irrefl a), if_neg (Nat.lt_irrefl a), Nat.compare_eq_eq.mpr rfl]
        rfl
      · rw [if_neg (Nat.lt_asymm greater), if_pos greater, Nat.compare_eq_gt.mpr greater]
        rfl

theorem compareWeights_transCmp : Std.TransCmp compareWeights := by
  have same : compareWeights = List.compareLex Ord.compare :=
    funext fun as => funext fun bs => compareWeights_eq_compareLex as bs
  rw [same]
  exact List.instTransCmpCompareLex

/-- Compares two texts on one level. -/
def compareLevel (weight : Element → Nat) (a b : String) : Ordering :=
  compareWeights (level weight (elements (decompose a.toList)))
    (level weight (elements (decompose b.toList)))

theorem compareLevel_transCmp (weight : Element → Nat) : Std.TransCmp (compareLevel weight) := by
  have weights := compareWeights_transCmp
  have swap : Std.OrientedCmp (compareLevel weight) := ⟨weights.eq_swap⟩
  exact ⟨weights.isLE_trans⟩

theorem compare_eq_compareLex : compare = compareLex (compareLevel Element.primary)
    (compareLex (compareLevel Element.secondary) (compareLevel Element.tertiary)) := rfl

instance compare_transCmp : Std.TransCmp compare := by
  have primary := compareLevel_transCmp Element.primary
  have secondary := compareLevel_transCmp Element.secondary
  have tertiary := compareLevel_transCmp Element.tertiary
  rw [compare_eq_compareLex]
  exact @Std.instTransCmpCompareLex _ _ _ primary (@Std.instTransCmpCompareLex _ _ _ secondary tertiary)

theorem order_transCmp {collator? : Option (String → String → Ordering)}
    (lawful : ∀ collator ∈ collator?, Std.TransCmp collator) : Std.TransCmp (order collator?) := by
  cases collator? with
  | none => exact inferInstanceAs (Std.TransCmp (Ord.compare (α := String)))
  | some collator => exact lawful collator rfl

end JsxCheck.Collation
