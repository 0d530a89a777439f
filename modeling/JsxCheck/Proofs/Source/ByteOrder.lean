import JsxCheck.Proofs.Source.Bytes
import Mathlib.Data.String.Basic

/-!
The order of texts.

Texts are ordered by their characters. `bytes_lt_iff` says that this is the order of their bytes: of
two characters the lesser has the lesser byte where their forms first differ.
-/
namespace JsxCheck

namespace Utf8

/-- Lists of bytes are ordered by the first byte in which they differ. -/
theorem cons_lt_cons {a b : Nat} {l r : List UInt8} (small : b < 256)
    (order : a < b ∨ (a = b ∧ l < r)) : UInt8.ofNat a :: l < UInt8.ofNat b :: r := by
  rcases order with less | ⟨rfl, tails⟩
  · refine List.Lex.rel ?_
    rw [UInt8.lt_iff_toNat_lt, UInt8.toNat_ofNat_of_lt' (Nat.lt_trans less small),
      UInt8.toNat_ofNat_of_lt' small]
    exact less
  · exact List.Lex.cons tails

/-- The lesser of two characters comes first, whatever follows. -/
theorem encode_lt_encode {c d : Char} (less : c < d) (l r : List UInt8) :
    String.utf8EncodeChar c ++ l < String.utf8EncodeChar d ++ r := by
  have code : c.val.toNat < d.val.toNat := less
  have bound : d.val.toNat < 2097152 := by
    have valid := d.valid
    simp only [UInt32.isValidChar, Nat.isValidChar] at valid
    omega
  unfold String.utf8EncodeChar
  generalize c.val.toNat = v at code
  generalize d.val.toNat = w at code bound
  dsimp only
  -- A longer form has a greater first byte; forms of one length are compared digit by digit.
  by_cases v1 : v ≤ 127
  · rw [if_pos v1]
    split
    · exact cons_lt_cons (by omega) (Or.inl (by omega))
    · split
      · exact cons_lt_cons (by omega) (Or.inl (by omega))
      · split <;> exact cons_lt_cons (by omega) (Or.inl (by omega))
  rw [if_neg v1, if_neg (show ¬ w ≤ 127 by omega)]
  by_cases v2 : v ≤ 2047
  · rw [if_pos v2]
    split
    · refine cons_lt_cons (by omega) (or_iff_not_imp_left.mpr fun first => ⟨by omega, ?_⟩)
      exact cons_lt_cons (by omega) (Or.inl (by omega))
    · split <;> exact cons_lt_cons (by omega) (Or.inl (by omega))
  rw [if_neg v2, if_neg (show ¬ w ≤ 2047 by omega)]
  by_cases v3 : v ≤ 65535
  · rw [if_pos v3]
    split
    · refine cons_lt_cons (by omega) (or_iff_not_imp_left.mpr fun first => ⟨by omega, ?_⟩)
      refine cons_lt_cons (by omega) (or_iff_not_imp_left.mpr fun second => ⟨by omega, ?_⟩)
      exact cons_lt_cons (by omega) (Or.inl (by omega))
    · exact cons_lt_cons (by omega) (Or.inl (by omega))
  rw [if_neg v3, if_neg (show ¬ w ≤ 65535 by omega)]
  refine cons_lt_cons (by omega) (or_iff_not_imp_left.mpr fun first => ⟨by omega, ?_⟩)
  refine cons_lt_cons (by omega) (or_iff_not_imp_left.mpr fun second => ⟨by omega, ?_⟩)
  refine cons_lt_cons (by omega) (or_iff_not_imp_left.mpr fun third => ⟨by omega, ?_⟩)
  have upper : v / 4096 = w / 4096 := by omega
  have middle : v / 64 = w / 64 := by omega
  exact cons_lt_cons (by omega) (Or.inl (by omega))

theorem flatMap_lt_flatMap {cs ds : List Char} (less : cs < ds) :
    cs.flatMap String.utf8EncodeChar < ds.flatMap String.utf8EncodeChar := by
  induction less with
  | nil =>
    rename_i d ds
    obtain ⟨b, bytes, form⟩ := exists_encode_eq_cons d
    rw [List.flatMap_cons, List.flatMap_nil, form]
    exact List.Lex.nil
  | rel first =>
    rw [List.flatMap_cons, List.flatMap_cons]
    exact encode_lt_encode first _ _
  | cons _ ih =>
    rw [List.flatMap_cons, List.flatMap_cons]
    exact List.Lex.append_left _ ih _

end Utf8

namespace Source

theorem bytes_lt_iff {a b : String} : (Source.mk a).bytes < (Source.mk b).bytes ↔ a < b := by
  rw [String.lt_iff_toList_lt]
  refine ⟨fun less => ?_, Utf8.flatMap_lt_flatMap⟩
  rcases lt_trichotomy a.toList b.toList with first | same | last
  · exact first
  · rw [bytes, bytes, same] at less
    exact absurd less (List.lt_irrefl _)
  · exact absurd less (List.lt_asymm (Utf8.flatMap_lt_flatMap last))

theorem bytes_le_iff {a b : String} : (Source.mk a).bytes ≤ (Source.mk b).bytes ↔ a ≤ b := by
  rw [← List.not_lt, bytes_lt_iff, not_lt]

end Source

end JsxCheck
