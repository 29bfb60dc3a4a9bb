import CatalogLint.Proofs.Number.Rounding

/-!
# Double arithmetic

Each operation is the exact one, rounded: `exists_ofNat`, `exists_div`, `exists_divNat` and
`exists_mul` say so for numbers that are not too large, and `le_iff` that the comparison is that of
the numbers.
Natural numbers below `2 ^ 53` are doubles (`Rounds.eq_natCast`).
-/

namespace CatalogLint.Binary64

/-! ## Natural numbers -/

/-- A natural number of at most 53 bits is a double. -/
theorem exists_magnitude_eq {n : Nat} (hn : n < 2 ^ 53) :
    ∃ b : Binary64, b.WellFormed ∧ b.magnitude = n := by
  by_cases h0 : n = 0
  · exact ⟨_, (rounds_zero false).wellFormed, by simp [magnitude, h0]⟩
  · have hbits : n.log2 ≤ 52 := by
      have := (Nat.log2_lt h0).mpr hn
      omega
    have hlow := Nat.log2_self_le h0
    have hhigh := @Nat.lt_log2_self n
    have hsplit : 2 ^ 52 = 2 ^ n.log2 * 2 ^ (52 - n.log2) := by
      rw [← pow_add, Nat.add_sub_cancel' hbits]
    refine ⟨⟨false, n * 2 ^ (52 - n.log2), n.log2 - 52⟩, ⟨?_, Or.inr ?_, ?_, ?_⟩, ?_⟩
    · have : n * 2 ^ (52 - n.log2) < 2 ^ (n.log2 + 1) * 2 ^ (52 - n.log2) :=
        Nat.mul_lt_mul_of_pos_right hhigh (by positivity)
      rw [pow_succ, mul_right_comm, ← hsplit] at this
      simpa [leadingBit, mul_comm] using this
    · have : 2 ^ n.log2 * 2 ^ (52 - n.log2) ≤ n * 2 ^ (52 - n.log2) :=
        Nat.mul_le_mul_right _ hlow
      rw [← hsplit] at this
      simpa [leadingBit] using this
    · simp only [minExponent]
      omega
    · simp only [maxExponent]
      omega
    · have hunit : (2 : ℚ) ^ (52 - n.log2) * 2 ^ ((n.log2 : Int) - 52) = 1 := by
        rw [← zpow_natCast, ← zpow_add₀ (by norm_num), Nat.cast_sub hbits]
        simp
      simp only [magnitude, Nat.cast_mul, Nat.cast_pow, Nat.cast_ofNat, mul_assoc, hunit, mul_one]

/-- Such a number is its own rounding. -/
theorem Rounds.eq_natCast {n : Nat} {a : Binary64} (h : Rounds n a) (hn : n < 2 ^ 53) :
    a.magnitude = n := by
  obtain ⟨b, hb, hv⟩ := exists_magnitude_eq hn
  exact h.eq_of_magnitude hb hv

theorem natCast_lt_limit {n : Nat} (hn : n < 2 ^ 64) : (n : ℚ) < limit := by
  have hn' : (n : ℚ) < 2 ^ 64 := by exact_mod_cast hn
  exact lt_limit (hn'.trans (by norm_num))

/-! ## Operations -/

theorem exists_ofNat {n : Nat} (hlt : (n : ℚ) < limit) :
    ∃ a, ofNat n = some a ∧ a.negative = false ∧ Rounds n a := by
  have hv : (n : ℚ) / (1 : Nat) = n := by simp
  rw [← hv] at hlt ⊢
  exact exists_rounds false one_ne_zero hlt

theorem ofNat_eq_none {n : Nat} (hle : limit ≤ (n : ℚ)) : ofNat n = none :=
  roundRatio_eq_none false one_ne_zero (by simpa using hle)

theorem rounds_of_ofNat {n : Nat} {a : Binary64} (h : ofNat n = some a) :
    a.negative = false ∧ Rounds n a := by
  rcases lt_or_ge (n : ℚ) limit with hlt | hle
  · obtain ⟨b, hb, hrounds⟩ := exists_ofNat hlt
    cases h.symm.trans hb
    exact hrounds
  · cases h.symm.trans (ofNat_eq_none hle)

/-- A double as a quotient of natural numbers. -/
theorem scale_neg_div (m : Nat) (e : Int) :
    ((scale m 1 (-e)).1 : ℚ) / (scale m 1 (-e)).2 = m * 2 ^ e := by
  rw [scale_div, Nat.cast_one, div_one, zpow_neg, div_inv_eq_mul]

theorem exists_div {a b : Binary64} (hb : b.mantissa ≠ 0)
    (hlt : a.magnitude / b.magnitude < limit) :
    ∃ c, a.div b = some c ∧ c.negative = (a.negative != b.negative) ∧
      Rounds (a.magnitude / b.magnitude) c := by
  have hd : (scale a.mantissa b.mantissa (b.exponent - a.exponent)).2 ≠ 0 :=
    (scale_pos (Nat.pos_of_ne_zero hb) _).ne'
  have hv : ((scale a.mantissa b.mantissa (b.exponent - a.exponent)).1 : ℚ) /
      (scale a.mantissa b.mantissa (b.exponent - a.exponent)).2 = a.magnitude / b.magnitude := by
    rw [scale_div, magnitude, magnitude, zpow_sub₀ (by norm_num)]
    field_simp
  rw [← hv] at hlt ⊢
  exact exists_rounds _ hd hlt

theorem exists_divNat {a : Binary64} {n : Nat} (hn : n ≠ 0) (hlt : a.magnitude / n < limit) :
    ∃ b, a.divNat n = some b ∧ b.negative = a.negative ∧ Rounds (a.magnitude / n) b := by
  have hd : (scale a.mantissa 1 (-a.exponent)).2 ≠ 0 := (scale_pos Nat.one_pos _).ne'
  have hv : ((scale a.mantissa 1 (-a.exponent)).1 : ℚ) /
      ((scale a.mantissa 1 (-a.exponent)).2 * n : Nat) = a.magnitude / n := by
    rw [Nat.cast_mul, ← div_div, scale_neg_div, magnitude]
  rw [← hv] at hlt ⊢
  exact exists_rounds a.negative (Nat.mul_ne_zero hd hn) hlt

theorem exists_mul {a b : Binary64} (hlt : a.magnitude * b.magnitude < limit) :
    ∃ c, a.mul b = some c ∧ c.negative = (a.negative != b.negative) ∧
      Rounds (a.magnitude * b.magnitude) c := by
  have hd : (scale (a.mantissa * b.mantissa) 1 (-(a.exponent + b.exponent))).2 ≠ 0 :=
    (scale_pos Nat.one_pos _).ne'
  have hv : ((scale (a.mantissa * b.mantissa) 1 (-(a.exponent + b.exponent))).1 : ℚ) /
      (scale (a.mantissa * b.mantissa) 1 (-(a.exponent + b.exponent))).2 =
        a.magnitude * b.magnitude := by
    rw [scale_neg_div, magnitude, magnitude, zpow_add₀ (by norm_num)]
    push_cast
    ring
  rw [← hv] at hlt ⊢
  exact exists_rounds _ hd hlt

/-- The share in a number that is not less is at most one, which is a double. -/
theorem magnitude_div_le_one {a b c : Binary64} (h : a.div b = some c) (hb : 1 ≤ b.magnitude)
    (hle : a.magnitude ≤ b.magnitude) :
    c.negative = (a.negative != b.negative) ∧ c.magnitude ≤ 1 := by
  have hmantissa : b.mantissa ≠ 0 := by
    intro h0
    rw [magnitude, h0, Nat.cast_zero, zero_mul] at hb
    linarith
  have hquotient : a.magnitude / b.magnitude ≤ 1 := (div_le_one (by linarith)).mpr hle
  obtain ⟨c', hdiv, hsign, hrounds⟩ :=
    exists_div hmantissa (lt_limit (hquotient.trans_lt (by norm_num)))
  obtain rfl := Option.some.inj (h.symm.trans hdiv)
  obtain ⟨one, hone, hvalue⟩ := exists_magnitude_eq (n := 1) (by norm_num)
  rw [Nat.cast_one] at hvalue
  exact ⟨hsign, hvalue ▸ hrounds.magnitude_le hone (hvalue ▸ hquotient)⟩

/-- A share of a double is at most this double. -/
theorem magnitude_mul_le {a b c : Binary64} (h : a.mul b = some c) (ha : a.magnitude ≤ 1)
    (hb : b.WellFormed) (hlt : b.magnitude < limit) :
    c.WellFormed ∧ c.negative = (a.negative != b.negative) ∧ c.magnitude ≤ b.magnitude := by
  have hpos : 0 ≤ b.magnitude := by
    rw [magnitude]
    positivity
  have hle : a.magnitude * b.magnitude ≤ b.magnitude := mul_le_of_le_one_left hpos ha
  obtain ⟨c', hmul, hsign, hrounds⟩ := exists_mul (hle.trans_lt hlt)
  obtain rfl := Option.some.inj (h.symm.trans hmul)
  exact ⟨hrounds.wellFormed, hsign, hrounds.magnitude_le hb hle⟩

/-- Without signs the comparison is that of the numbers. -/
theorem le_iff {a b : Binary64} (ha : a.WellFormed) (hb : b.WellFormed)
    (hsa : a.negative = false) (hsb : b.negative = false) :
    a.le b = true ↔ a.magnitude ≤ b.magnitude := by
  have hunits : ∀ c : Binary64, c.WellFormed → c.negative = false →
      (c.units : ℚ) * 2 ^ minExponent = c.magnitude := by
    intro c hc hs
    rw [units, hs, magnitude_eq_mul hc.minExponent_le]
    simp [Nat.pow_eq]
  rw [le, decide_eq_true_eq, ← hunits a ha hsa, ← hunits b hb hsb,
    mul_le_mul_iff_left₀ (by positivity), Int.cast_le]

end CatalogLint.Binary64
