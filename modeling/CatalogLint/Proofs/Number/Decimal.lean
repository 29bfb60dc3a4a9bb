import CatalogLint.Number.Decimal
import CatalogLint.Proofs.Text.Basic

/-!
# Digits

A natural number is written with digits and nothing else, and they are read back as the number, also
with zeros in front.
-/

namespace CatalogLint

namespace Text

/-- A number is written with digits. -/
theorem isDigit_of_mem_ofNat {n : Nat} {c : Char} (hc : c ∈ ofNat n) : Decimal.isDigit c = true := by
  have := Nat.isDigit_of_mem_toDigits (by decide) (by decide) hc
  simpa [Char.isDigit, Decimal.isDigit, Char.le_def] using this

theorem isSpace_of_isDigit {c : Char} (h : Decimal.isDigit c = true) : isSpace c = false := by
  have hc : 48 ≤ c.toNat ∧ c.toNat ≤ 57 := by
    simpa [Decimal.isDigit, Char.le_def, UInt32.le_iff_toNat_le] using h
  simp only [isSpace, Bool.or_eq_false_iff, Bool.and_eq_false_imp, beq_eq_false_iff_ne,
    decide_eq_true_eq, decide_eq_false_iff_not]
  omega

end Text

namespace Decimal

theorem digitsValue_ofNat (n : Nat) : digitsValue (Text.ofNat n) = n := by
  rw [Text.ofNat, digitsValue, ← Nat.ofDigitChars_eq_foldl, Nat.ofDigitChars_ten_toDigits]

/-- Zeros in front do not matter. -/
theorem digitsValue_fill_append (k : Nat) (t : Text) :
    digitsValue (Text.fill '0' k ++ t) = digitsValue t := by
  induction k with
  | zero => rfl
  | succ k ih =>
    rw [← ih]
    rfl

end Decimal

end CatalogLint
