import CatalogLint.Proofs.Number.Arithmetic

/-!
# From decimal numbers to doubles

A decimal number is rounded to the nearest double if it is below the limit (`exists_ofDecimal_rounds`),
and to none from the limit on (`ofDecimal_eq_none`). What is settled without a quotient is settled
rightly: below `10 ^ -400` a number is rounded to zero, and from `10 ^ 400` on it overflows
(`powers_of_ten`), and between which powers of ten a number is can be told from the place of its
first digit (`Decimal.magnitude_bounds`).
-/

namespace CatalogLint

namespace Decimal

/-- The number that a decimal number is, without its sign. -/
def magnitude (x : Decimal) : ℚ := x.significand * 10 ^ x.exponent

/-- The place of the first digit of a number, counted from the point. -/
def place (x : Decimal) : Int := (Nat.toDigits 10 x.significand).length + x.exponent

variable {x : Decimal}

/-- The size of a number is known from the place of its first digit. -/
theorem magnitude_bounds (hx : x.significand ≠ 0) :
    10 ^ (x.place - 1) ≤ x.magnitude ∧ x.magnitude < 10 ^ x.place := by
  have hten : (0 : ℚ) < 10 ^ x.exponent := by positivity
  have hpos : 0 < (Nat.toDigits 10 x.significand).length :=
    List.length_pos_iff.mpr Nat.toDigits_ne_nil
  obtain ⟨more, hmore⟩ : ∃ more, (Nat.toDigits 10 x.significand).length = more + 1 :=
    Nat.exists_eq_add_one.mpr hpos
  have hhigh : x.significand < 10 ^ (more + 1) :=
    (Nat.length_toDigits_le_iff (by decide) (Nat.succ_pos more)).mp hmore.le
  have hlow : 10 ^ more ≤ x.significand := by
    rcases Nat.eq_zero_or_pos more with rfl | hmore'
    · exact Nat.pos_of_ne_zero hx
    · rw [← not_lt, ← Nat.length_toDigits_le_iff (by decide : 1 < 10) hmore', hmore]
      omega
  have hplace : x.place = (more + 1 : Nat) + x.exponent := by rw [place, hmore]
  have hplace' : x.place - 1 = more + x.exponent := by
    rw [hplace]
    push_cast
    ring
  rw [hplace', hplace, magnitude, zpow_add₀ (by norm_num), zpow_add₀ (by norm_num), zpow_natCast,
    zpow_natCast]
  constructor
  · exact mul_le_mul_of_nonneg_right (by exact_mod_cast hlow) hten.le
  · exact mul_lt_mul_of_pos_right (by exact_mod_cast hhigh) hten

end Decimal

namespace Binary64

/-- A number of at most half of the least double is rounded to zero. -/
theorem rounds_zero_of_le {x : ℚ} (h0 : 0 ≤ x) (hx : 2 * x ≤ 2 ^ minExponent) (negative : Bool) :
    Rounds x ⟨negative, 0, minExponent⟩ := by
  have hzero : magnitude ⟨negative, 0, minExponent⟩ = 0 := by simp [magnitude]
  refine ⟨(rounds_zero negative).wellFormed, fun b hb => ?_, fun _ _ _ _ => rfl⟩
  rw [hzero, zero_sub, abs_neg, abs_of_nonneg h0]
  rcases Nat.eq_zero_or_pos b.mantissa with hb0 | hb0
  · rw [magnitude, hb0, Nat.cast_zero, zero_mul, zero_sub, abs_neg, abs_of_nonneg h0]
  · have hleast : (2 : ℚ) ^ minExponent ≤ b.magnitude := by
      have hone : (1 : ℚ) ≤ b.mantissa := by exact_mod_cast hb0
      have hunit : (2 : ℚ) ^ minExponent ≤ 2 ^ b.exponent :=
        zpow_le_zpow_right₀ (by norm_num) hb.minExponent_le
      have hpos : (0 : ℚ) < 2 ^ minExponent := by positivity
      rw [magnitude]
      nlinarith
    exact le_trans (by linarith) (le_abs_self _)

variable {x : Decimal}

theorem ofDecimal_of_lt (h : x.significand = 0 ∨ x.place < -400) :
    ofDecimal x = some ⟨x.negative, 0, minExponent⟩ := by
  rw [ofDecimal]
  exact if_pos (by simpa [Decimal.place] using h)

theorem ofDecimal_of_gt (h0 : x.significand ≠ 0) (h : 400 < x.place) : ofDecimal x = none := by
  rw [Decimal.place] at h
  rw [ofDecimal, if_neg, if_pos h]
  simp only [h0, decide_false, Bool.false_or, decide_eq_true_eq]
  omega

/-- A number that is neither too small nor too large is rounded as a quotient. -/
theorem exists_ofDecimal_eq (h0 : x.significand ≠ 0) (hlow : -400 ≤ x.place)
    (hhigh : x.place ≤ 400) : ∃ num den : Nat, den ≠ 0 ∧ (num : ℚ) / den = x.magnitude ∧
      ofDecimal x = roundRatio x.negative num den := by
  rw [Decimal.place] at hlow hhigh
  have hsmall : ¬ (x.significand = 0 ||
      (Nat.toDigits 10 x.significand).length + x.exponent < -400 : Bool) = true := by
    simp only [h0, decide_false, Bool.false_or, decide_eq_true_eq]
    omega
  rw [ofDecimal, if_neg hsmall, if_neg hhigh.not_gt, Decimal.magnitude]
  cases x.exponent with
  | ofNat e => exact ⟨_, 1, one_ne_zero, by simp [Nat.pow_eq], rfl⟩
  | negSucc e =>
    refine ⟨_, _, (Nat.pow_pos (by decide)).ne', ?_, rfl⟩
    rw [zpow_negSucc, div_eq_mul_inv]
    push_cast
    rfl

/-- Outside these powers of ten the size of a number settles how it is rounded. -/
theorem powers_of_ten : 2 * (10 : ℚ) ^ (-400 : Int) ≤ 2 ^ minExponent ∧
    limit ≤ (10 : ℚ) ^ (400 : Int) := by
  have height : (2 : ℚ) ^ (1200 : Int) ≤ 10 ^ (400 : Int) := by
    have hpower : (2 : ℚ) ^ (3 * 400) ≤ 10 ^ 400 := by
      rw [pow_mul]
      exact pow_le_pow_left₀ (by norm_num) (by norm_num) 400
    rw [← zpow_natCast, ← zpow_natCast] at hpower
    exact hpower
  constructor
  · have hinv : (10 : ℚ) ^ (-400 : Int) ≤ 2 ^ (-1200 : Int) := by
      rw [zpow_neg, zpow_neg]
      exact inv_anti₀ (by positivity) height
    have hleast : 2 * (2 : ℚ) ^ (-1200 : Int) ≤ 2 ^ minExponent := by
      rw [mul_comm, ← zpow_add_one₀ (by norm_num)]
      exact zpow_le_zpow_right₀ (by norm_num) (by decide)
    linarith
  · have hgreatest : (2 : ℚ) ^ 53 * 2 ^ maxExponent ≤ 2 ^ (1200 : Int) := by
      rw [← zpow_natCast, ← zpow_add₀ (by norm_num)]
      exact zpow_le_zpow_right₀ (by norm_num) (by decide)
    have hpos : (0 : ℚ) < 2 ^ maxExponent := by positivity
    rw [limit_eq]
    calc (2 ^ 53 - 1 / 2) * (2 : ℚ) ^ maxExponent
        ≤ 2 ^ 53 * 2 ^ maxExponent := mul_le_mul_of_nonneg_right (by norm_num) hpos.le
      _ ≤ 2 ^ (1200 : Int) := hgreatest
      _ ≤ 10 ^ (400 : Int) := height

/-- A decimal number below the limit is rounded. -/
theorem exists_ofDecimal_rounds (hlt : x.magnitude < limit) :
    ∃ a, ofDecimal x = some a ∧ a.negative = x.negative ∧ Rounds x.magnitude a := by
  have hpos : 0 ≤ x.magnitude := by
    rw [Decimal.magnitude]
    positivity
  by_cases h0 : x.significand = 0
  · refine ⟨_, ofDecimal_of_lt (Or.inl h0), rfl, ?_⟩
    rw [Decimal.magnitude, h0, Nat.cast_zero, zero_mul]
    exact rounds_zero _
  · obtain ⟨hlow, hhigh⟩ := x.magnitude_bounds h0
    rcases lt_or_ge x.place (-400) with hsmall | hsmall
    · refine ⟨_, ofDecimal_of_lt (Or.inr hsmall), rfl, rounds_zero_of_le hpos ?_ _⟩
      have : (10 : ℚ) ^ x.place ≤ 10 ^ (-400 : Int) :=
        zpow_le_zpow_right₀ (by norm_num) hsmall.le
      linarith [powers_of_ten.1]
    · have hlarge : x.place ≤ 400 := by
        by_contra hgt
        have : (10 : ℚ) ^ (400 : Int) ≤ 10 ^ (x.place - 1) :=
          zpow_le_zpow_right₀ (by norm_num) (by omega)
        linarith [powers_of_ten.2]
      obtain ⟨num, den, hden, hvalue, heq⟩ := exists_ofDecimal_eq h0 hsmall hlarge
      rw [heq, ← hvalue]
      exact exists_rounds x.negative hden (by rwa [hvalue])

/-- A decimal number from the limit on overflows. -/
theorem ofDecimal_eq_none (hle : limit ≤ x.magnitude) : ofDecimal x = none := by
  have hlimit : (0 : ℚ) < limit := lt_limit (by norm_num)
  have h0 : x.significand ≠ 0 := by
    intro h0
    rw [Decimal.magnitude, h0, Nat.cast_zero, zero_mul] at hle
    linarith
  rcases lt_or_ge 400 x.place with hlarge | hlarge
  · exact ofDecimal_of_gt h0 hlarge
  · have hsmall : -400 ≤ x.place := by
      by_contra hlt
      have hpower : (10 : ℚ) ^ x.place ≤ 10 ^ (-400 : Int) :=
        zpow_le_zpow_right₀ (by norm_num) (by omega)
      have hone : (2 : ℚ) ^ minExponent ≤ 1 := zpow_le_one_of_nonpos₀ (by norm_num) (by decide)
      have hlimit' : (1 : ℚ) < limit := lt_limit (by norm_num)
      linarith [powers_of_ten.1, (x.magnitude_bounds h0).2]
    obtain ⟨num, den, hden, hvalue, heq⟩ := exists_ofDecimal_eq h0 hsmall hlarge
    rw [heq]
    exact roundRatio_eq_none x.negative hden (by rwa [hvalue])

end Binary64

end CatalogLint
