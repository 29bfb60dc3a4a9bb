import CatalogLint.Number.Binary64
import Mathlib.Algebra.Order.Field.Power
import Mathlib.Algebra.Order.Field.Rat
import Mathlib.Tactic.FieldSimp
import Mathlib.Tactic.Linarith
import Mathlib.Tactic.Positivity
import Mathlib.Tactic.Ring

/-!
# Rounding to the nearest double

`Binary64.Rounds x a` says what it is for a double `a` to be a number `x` rounded: no double is
nearer to `x`, and if another one is as near, the mantissa of `a` is even. This names neither
exponents nor remainders; that `roundRatio` computes it is `exists_rounds`.

* `divNearest_near`: the rounding on integers, with its ties.
* `exponentFor_spec`: the exponent puts the number below `2 ^ 53` units and, unless it is the least
  one, at `2 ^ 52` units or above.
* `OnGrid`: what these two come to. A double whose exponent is less lies below the grid of the
  multiples of `2 ^ exponent`, and so does not come nearer (`OnGrid.rounds`).
* `OnGrid.exponent_le_iff`: the numbers that are rounded without overflow are those below `limit`.
* `Rounds.eq_of_magnitude`: a double is its own rounding.
* `Rounds.error`: half a unit of the last bit, relative to the number.

Rounding is the same on both sides of zero, so that it is stated for magnitudes.
-/

namespace CatalogLint.Binary64

/-- The number that a double is, without its sign. -/
def magnitude (a : Binary64) : ℚ := a.mantissa * 2 ^ a.exponent

/-- The form in which each double occurs once, but for signs: a mantissa below `2 ^ 53`, at `2 ^ 52`
or above unless the exponent is the least one. -/
structure WellFormed (a : Binary64) : Prop where
  mantissa_lt : a.mantissa < 2 * leadingBit
  leading : a.exponent = minExponent ∨ leadingBit ≤ a.mantissa
  minExponent_le : minExponent ≤ a.exponent
  exponent_le : a.exponent ≤ maxExponent

/-- A double is the number `x` rounded to nearest, a tie to the even mantissa. -/
structure Rounds (x : ℚ) (a : Binary64) : Prop where
  wellFormed : a.WellFormed
  nearest : ∀ b : Binary64, b.WellFormed → |a.magnitude - x| ≤ |b.magnitude - x|
  even : ∀ b : Binary64, b.WellFormed → |b.magnitude - x| = |a.magnitude - x| →
    b.magnitude ≠ a.magnitude → a.mantissa % 2 = 0

/-- The least number that is rounded to infinity: halfway from the greatest double to where the next
one would be. It is irreducible so that no tactic writes it out. -/
@[irreducible] def limit : ℚ := 2 ^ 1024 - 2 ^ 970

/-- The limit in units of the greatest doubles. -/
theorem limit_eq : limit = (2 ^ 53 - 1 / 2) * 2 ^ maxExponent := by
  have hunit : (2 : ℚ) ^ maxExponent = 2 * 2 ^ 970 := by
    rw [← pow_succ', maxExponent, ← zpow_natCast]
    rfl
  have hend : (2 : ℚ) ^ 1024 = 2 ^ 54 * 2 ^ 970 := by rw [← pow_add]
  unfold limit
  rw [hunit, hend]
  generalize (2 : ℚ) ^ 970 = half
  ring

theorem lt_limit {x : ℚ} (h : x < 2 ^ 80) : x < limit := by
  have hunit : (2 : ℚ) ^ 80 ≤ 2 ^ maxExponent := by
    rw [← zpow_natCast]
    exact zpow_le_zpow_right₀ (by norm_num) (by decide)
  rw [limit_eq]
  linarith

@[simp] theorem cast_leadingBit : (leadingBit : ℚ) = 2 ^ 52 := by
  norm_num [leadingBit]

/-! ## The form of doubles -/

/-- A double is a multiple of each unit that is not larger than its own. -/
theorem magnitude_eq_mul {b : Binary64} {e : Int} (he : e ≤ b.exponent) :
    b.magnitude = (b.mantissa * 2 ^ (b.exponent - e).toNat : Nat) * 2 ^ e := by
  have hsplit : (2 : ℚ) ^ b.exponent = 2 ^ (b.exponent - e).toNat * 2 ^ e := by
    rw [← zpow_natCast, ← zpow_add₀ (by norm_num)]
    congr 1
    omega
  rw [magnitude, hsplit]
  push_cast
  ring

namespace WellFormed

variable {a b : Binary64}

/-- A double whose unit is smaller than `2 ^ e` is below `2 ^ 52` such units. -/
theorem magnitude_lt (hb : b.WellFormed) {e : Int} (hlt : b.exponent < e) :
    b.magnitude < 2 ^ 52 * 2 ^ e := by
  have hm : (b.mantissa : ℚ) < 2 * 2 ^ 52 := by
    have : (b.mantissa : ℚ) < ((2 * leadingBit : Nat) : ℚ) := by exact_mod_cast hb.mantissa_lt
    simpa using this
  have he : (2 : ℚ) * 2 ^ b.exponent ≤ 2 ^ e := by
    rw [mul_comm, ← zpow_add_one₀ (by norm_num)]
    exact zpow_le_zpow_right₀ (by norm_num) (by omega)
  have hpos : (0 : ℚ) < 2 ^ b.exponent := by positivity
  rw [magnitude]
  nlinarith

theorem le_magnitude (ha : a.WellFormed) (he : a.exponent ≠ minExponent) :
    2 ^ 52 * 2 ^ a.exponent ≤ a.magnitude := by
  have hm : (2 ^ 52 : ℚ) ≤ a.mantissa := by
    rw [← cast_leadingBit]
    exact_mod_cast ha.leading.resolve_left he
  exact mul_le_mul_of_nonneg_right hm (by positivity)

theorem magnitude_lt_magnitude (ha : a.WellFormed) (hb : b.WellFormed)
    (hlt : a.exponent < b.exponent) : a.magnitude < b.magnitude :=
  (ha.magnitude_lt hlt).trans_le
    (hb.le_magnitude (by have := ha.minExponent_le; omega))

/-- The next double is at least a unit away. -/
theorem add_unit_le (ha : a.WellFormed) (hb : b.WellFormed) (hlt : a.magnitude < b.magnitude) :
    a.magnitude + 2 ^ a.exponent ≤ b.magnitude := by
  have hle : a.exponent ≤ b.exponent := by
    by_contra h
    exact absurd (hb.magnitude_lt_magnitude ha (by omega)) hlt.not_gt
  have hpos : (0 : ℚ) < 2 ^ a.exponent := by positivity
  rw [magnitude_eq_mul hle] at hlt ⊢
  generalize b.mantissa * 2 ^ (b.exponent - a.exponent).toNat = j at hlt ⊢
  rw [magnitude] at hlt ⊢
  have : (a.mantissa : ℚ) + 1 ≤ j := by
    have := lt_of_mul_lt_mul_right hlt hpos.le
    exact_mod_cast this
  nlinarith

/-- The form of a double is determined by its magnitude. -/
theorem mantissa_eq (ha : a.WellFormed) (hb : b.WellFormed) (heq : a.magnitude = b.magnitude) :
    a.mantissa = b.mantissa := by
  have he : a.exponent = b.exponent := by
    rcases lt_trichotomy a.exponent b.exponent with h | h | h
    · exact absurd heq (ha.magnitude_lt_magnitude hb h).ne
    · exact h
    · exact absurd heq (hb.magnitude_lt_magnitude ha h).ne'
  rw [magnitude, magnitude, he] at heq
  have := mul_right_cancel₀ (by positivity) heq
  exact_mod_cast this

end WellFormed

/-! ## Rounding to an integer -/

/-- The rounding on natural numbers, without quotients: twice the remainder is at most the
divisor on each side, and where it is the divisor the result is even. -/
theorem divNearest_bounds {num den : Nat} (hd : 0 < den) :
    2 * num ≤ (2 * divNearest num den + 1) * den ∧
      2 * divNearest num den * den ≤ 2 * num + den ∧
      (2 * num = (2 * divNearest num den + 1) * den → divNearest num den % 2 = 0) ∧
      (2 * divNearest num den * den = 2 * num + den → divNearest num den % 2 = 0) := by
  have hr : num % den < den := Nat.mod_lt num hd
  have hq : 2 * num = 2 * (num / den) * den + 2 * (num % den) := by
    have := Nat.div_add_mod num den
    nlinarith
  have hdown : (2 * (num / den) + 1) * den = 2 * (num / den) * den + den := by ring
  have hup : 2 * (num / den + 1) * den = 2 * (num / den) * den + 2 * den := by ring
  have hover : (2 * (num / den + 1) + 1) * den = 2 * (num / den) * den + 3 * den := by ring
  unfold divNearest
  dsimp only
  split_ifs with hlow hhigh heven
  · omega
  · omega
  · omega
  · omega

/-- The rounding to an integer is at most a half away, and even if it is that far away. -/
theorem divNearest_near {num den : Nat} (hd : 0 < den) :
    |(divNearest num den : ℚ) - num / den| ≤ 1 / 2 ∧
      (|(divNearest num den : ℚ) - num / den| = 1 / 2 → divNearest num den % 2 = 0) := by
  obtain ⟨hlow, hhigh, hdown, hup⟩ := @divNearest_bounds num den hd
  have hd' : (0 : ℚ) < den := by exact_mod_cast hd
  have hnum : (num : ℚ) = num / den * den := by field_simp
  generalize hy : (num : ℚ) / den = y at hnum ⊢
  generalize divNearest num den = k at *
  have hlow' : (2 * num : ℚ) ≤ (2 * k + 1) * den := by exact_mod_cast hlow
  have hhigh' : (2 * k * den : ℚ) ≤ 2 * num + den := by exact_mod_cast hhigh
  constructor
  · rw [abs_le]
    constructor
    · by_contra h
      nlinarith
    · by_contra h
      nlinarith
  · intro h
    rcases (abs_eq (by norm_num)).mp h with h | h
    · refine hup ?_
      have : (2 * k * den : ℚ) = 2 * num + den := by
        rw [hnum, show (k : ℚ) = y + 1 / 2 by linarith]
        ring
      exact_mod_cast this
    · refine hdown ?_
      have : (2 * num : ℚ) = (2 * k + 1) * den := by
        rw [hnum, show (k : ℚ) = y - 1 / 2 by linarith]
        ring
      exact_mod_cast this

/-- Two different integers are one apart, so that no integer is nearer than one that is at most
a half away, and one that is as near makes it a half. -/
theorem near_le {y : ℚ} {k : Nat} (hk : |(k : ℚ) - y| ≤ 1 / 2) {j : Nat} (hj : j ≠ k) :
    1 / 2 ≤ |(j : ℚ) - y| := by
  have hone : (1 : ℚ) ≤ |(j : ℚ) - k| := by
    have : (1 : ℤ) ≤ |(j : ℤ) - k| := Int.one_le_abs (by omega)
    exact_mod_cast this
  have htri : |(j : ℚ) - k| ≤ |(j : ℚ) - y| + |(k : ℚ) - y| := by
    have := abs_sub_le (j : ℚ) y k
    rwa [abs_sub_comm y k] at this
  linarith

/-! ## The exponent -/

theorem scale_pos {num den : Nat} (hd : 0 < den) (e : Int) : 0 < (scale num den e).2 := by
  cases e with
  | ofNat e => exact Nat.mul_pos hd (Nat.pow_pos (by decide))
  | negSucc e => exact hd

theorem scale_div (num den : Nat) (e : Int) :
    ((scale num den e).1 : ℚ) / (scale num den e).2 = num / den / 2 ^ e := by
  cases e with
  | ofNat e => simp [scale, div_div]
  | negSucc e =>
    simp only [scale, Nat.pow_eq, Nat.cast_mul, Nat.cast_pow, Nat.cast_ofNat, zpow_negSucc,
      div_inv_eq_mul]
    ring

theorem log2_bounds {num den : Nat} (hn : num ≠ 0) (hd : den ≠ 0) :
    2 ^ ((num.log2 : Int) - den.log2 - 1) < (num : ℚ) / den ∧
      (num : ℚ) / den < 2 ^ ((num.log2 : Int) - den.log2 + 1) := by
  have hnl : ((2 ^ num.log2 : Nat) : ℚ) ≤ num := by exact_mod_cast Nat.log2_self_le hn
  have hnu : (num : ℚ) < ((2 ^ (num.log2 + 1) : Nat) : ℚ) := by exact_mod_cast Nat.lt_log2_self
  have hdl : ((2 ^ den.log2 : Nat) : ℚ) ≤ den := by exact_mod_cast Nat.log2_self_le hd
  have hdu : (den : ℚ) < ((2 ^ (den.log2 + 1) : Nat) : ℚ) := by exact_mod_cast Nat.lt_log2_self
  have hd' : (0 : ℚ) < den := by exact_mod_cast Nat.pos_of_ne_zero hd
  have h2 : (2 : ℚ) ≠ 0 := by norm_num
  push_cast at hnl hnu hdl hdu
  constructor
  · rw [lt_div_iff₀ hd', show (num.log2 : Int) - den.log2 - 1 = num.log2 - (den.log2 + 1 : Nat) by
      push_cast; ring, zpow_sub₀ h2, zpow_natCast, zpow_natCast, div_mul_eq_mul_div,
      div_lt_iff₀ (by positivity)]
    exact mul_lt_mul' hnl hdu (by positivity) (by linarith [pow_pos (show (0 : ℚ) < 2 by norm_num) num.log2])
  · rw [div_lt_iff₀ hd', show (num.log2 : Int) - den.log2 + 1 = (num.log2 + 1 : Nat) - den.log2 by
      push_cast; ring, zpow_sub₀ h2, zpow_natCast, zpow_natCast, div_mul_eq_mul_div,
      lt_div_iff₀ (by positivity)]
    exact mul_lt_mul hnu hdl (by positivity) (by positivity)

/-- The exponent is the least one or makes the integral part of a number one of 53 bits. -/
theorem exponentFor_spec {num den : Nat} (hn : num ≠ 0) (hd : den ≠ 0) :
    minExponent ≤ exponentFor num den ∧
      (num : ℚ) / den < 2 ^ 53 * 2 ^ exponentFor num den ∧
      (exponentFor num den = minExponent ∨ 2 ^ 52 * 2 ^ exponentFor num den ≤ (num : ℚ) / den) := by
  obtain ⟨hlow, hhigh⟩ := log2_bounds hn hd
  generalize hg : (num.log2 : Int) - den.log2 - 52 = guess
  have h2 : (2 : ℚ) ≠ 0 := by norm_num
  have hunit : ∀ (k : Nat) (e : Int), (2 : ℚ) ^ k * 2 ^ e = 2 ^ (k + e) := by
    intro k e
    rw [zpow_add₀ h2, zpow_natCast]
  -- The exponent before it is raised to the least one.
  obtain ⟨e, he, hlt, hle⟩ : ∃ e, exponentFor num den = max minExponent e ∧
      (num : ℚ) / den < 2 ^ 53 * 2 ^ e ∧ 2 ^ 52 * 2 ^ e ≤ (num : ℚ) / den := by
    have hpos : (0 : ℚ) < (scale num den guess).2 := by
      exact_mod_cast scale_pos (Nat.pos_of_ne_zero hd) guess
    have hfew : (scale num den guess).1 / (scale num den guess).2 < leadingBit ↔
        (num : ℚ) / den < 2 ^ 52 * 2 ^ guess := by
      rw [Nat.div_lt_iff_lt_mul (scale_pos (Nat.pos_of_ne_zero hd) guess),
        ← div_lt_iff₀ (by positivity : (0 : ℚ) < 2 ^ guess), ← scale_div, div_lt_iff₀ hpos,
        ← cast_leadingBit]
      exact_mod_cast Iff.rfl
    refine ⟨_, by rw [exponentFor, hg], ?_⟩
    split_ifs with h
    · rw [hfew] at h
      constructor
      · rwa [hunit, show ((53 : Nat) : Int) + (guess - 1) = (52 : Nat) + guess by push_cast; ring,
          ← hunit]
      · rw [hunit, show ((52 : Nat) : Int) + (guess - 1) = num.log2 - den.log2 - 1 by
          push_cast; omega]
        exact hlow.le
    · rw [hfew, not_lt] at h
      constructor
      · rw [hunit, show ((53 : Nat) : Int) + guess = num.log2 - den.log2 + 1 by
          push_cast; omega]
        exact hhigh
      · exact h
  rw [he]
  refine ⟨le_max_left _ _, ?_, ?_⟩
  · refine hlt.trans_le (mul_le_mul_of_nonneg_left ?_ (by positivity))
    exact zpow_le_zpow_right₀ (by norm_num) (le_max_right _ _)
  · rcases le_total e minExponent with h | h
    · exact Or.inl (max_eq_left h)
    · rw [max_eq_right h]
      exact Or.inr hle

/-! ## The grid -/

/-- The integer `k` is the number `x` in units of `2 ^ e`, rounded, and these units are those of
the last bit of the doubles next to `x`. -/
structure OnGrid (x : ℚ) (e : Int) (k : Nat) : Prop where
  minExponent_le : minExponent ≤ e
  lt : x < 2 ^ 53 * 2 ^ e
  le : e = minExponent ∨ 2 ^ 52 * 2 ^ e ≤ x
  near : |(k : ℚ) - x / 2 ^ e| ≤ 1 / 2
  even : |(k : ℚ) - x / 2 ^ e| = 1 / 2 → k % 2 = 0

namespace OnGrid

variable {x : ℚ} {e : Int} {k : Nat}

theorem abs_sub_eq (x : ℚ) (e : Int) (j : Nat) :
    |(j : ℚ) * 2 ^ e - x| = |(j : ℚ) - x / 2 ^ e| * 2 ^ e := by
  have hpos : (0 : ℚ) < 2 ^ e := by positivity
  rw [← abs_of_pos hpos, ← abs_mul, abs_of_pos hpos, sub_mul, div_mul_cancel₀ _ hpos.ne']

theorem abs_sub_le (h : OnGrid x e k) : |(k : ℚ) * 2 ^ e - x| ≤ 2 ^ e / 2 := by
  have hpos : (0 : ℚ) < 2 ^ e := by positivity
  rw [abs_sub_eq]
  nlinarith [h.near]

theorem le_abs_sub (h : OnGrid x e k) (j : Nat) :
    |(k : ℚ) * 2 ^ e - x| ≤ |(j : ℚ) * 2 ^ e - x| := by
  by_cases hj : j = k
  · rw [hj]
  · rw [abs_sub_eq, abs_sub_eq]
    exact mul_le_mul_of_nonneg_right (h.near.trans (near_le h.near hj)) (by positivity)

theorem even_of_abs_sub_eq (h : OnGrid x e k) {j : Nat} (hj : j ≠ k)
    (heq : |(j : ℚ) * 2 ^ e - x| = |(k : ℚ) * 2 ^ e - x|) : k % 2 = 0 := by
  have hpos : (2 : ℚ) ^ e ≠ 0 := by positivity
  rw [abs_sub_eq, abs_sub_eq] at heq
  have hfar := near_le h.near hj
  rw [mul_right_cancel₀ hpos heq] at hfar
  exact h.even (le_antisymm h.near hfar)

/-- Where units are larger than the least ones, the integer has 53 bits. -/
theorem leadingBit_le (h : OnGrid x e k) (he : e ≠ minExponent) : leadingBit ≤ k := by
  have hpos : (0 : ℚ) < 2 ^ e := by positivity
  have hx : (2 ^ 52 : ℚ) ≤ x / 2 ^ e := (le_div_iff₀ hpos).mpr (h.le.resolve_left he)
  by_contra hk
  have hfar : (1 : ℚ) ≤ leadingBit - k := by
    have : k + 1 ≤ leadingBit := by omega
    have : ((k + 1 : Nat) : ℚ) ≤ leadingBit := by exact_mod_cast this
    push_cast at this ⊢
    linarith
  rw [cast_leadingBit] at hfar
  have := (abs_le.mp h.near).1
  linarith

theorem le_two_mul_leadingBit (h : OnGrid x e k) : k ≤ 2 * leadingBit := by
  have hpos : (0 : ℚ) < 2 ^ e := by positivity
  have hx : x / 2 ^ e < 2 ^ 53 := (div_lt_iff₀ hpos).mpr h.lt
  by_contra hk
  have hfar : (2 * leadingBit : ℚ) + 1 ≤ k := by
    have : 2 * leadingBit + 1 ≤ k := by omega
    exact_mod_cast this
  rw [cast_leadingBit] at hfar
  have := (abs_le.mp h.near).2
  linarith

/-- A double with a lesser exponent is farther away: it lies below `2 ^ 52` units, which is on
the way to `x`. -/
theorem lt_abs_sub (h : OnGrid x e k) {b : Binary64} (hb : b.WellFormed) (hlt : b.exponent < e) :
    |(k : ℚ) * 2 ^ e - x| < |b.magnitude - x| := by
  have hle : 2 ^ 52 * 2 ^ e ≤ x := h.le.resolve_left (by have := hb.minExponent_le; omega)
  have hbelow := hb.magnitude_lt hlt
  have hnear := h.le_abs_sub leadingBit
  rw [cast_leadingBit] at hnear
  calc |(k : ℚ) * 2 ^ e - x|
      ≤ |2 ^ 52 * 2 ^ e - x| := hnear
    _ = x - 2 ^ 52 * 2 ^ e := by rw [abs_sub_comm, abs_of_nonneg (by linarith)]
    _ < x - b.magnitude := by linarith
    _ ≤ |b.magnitude - x| := by
      rw [abs_sub_comm]
      exact le_abs_self _

/-- The double with the mantissa `k`, or with half of it and a unit twice as large, is `x`
rounded. -/
theorem rounds (h : OnGrid x e k) {a : Binary64} (hw : a.WellFormed)
    (ha : a.magnitude = k * 2 ^ e) (heven : k % 2 = 0 → a.mantissa % 2 = 0) : Rounds x a := by
  refine ⟨hw, ?_, ?_⟩
  · intro b hb
    rw [ha]
    rcases lt_or_ge b.exponent e with hlt | hge
    · exact (h.lt_abs_sub hb hlt).le
    · rw [magnitude_eq_mul hge]
      exact h.le_abs_sub _
  · intro b hb heq hne
    rw [ha] at heq hne
    rcases lt_or_ge b.exponent e with hlt | hge
    · exact absurd heq (h.lt_abs_sub hb hlt).ne'
    · rw [magnitude_eq_mul hge] at heq hne
      exact heven (h.even_of_abs_sub_eq (fun hjk => hne (by rw [hjk])) heq)

/-- Half a unit is half of the last of 53 bits, relative to `x`. -/
theorem relative_error (h : OnGrid x e k) (hx : 2 ^ (-1022 : Int) ≤ x) :
    |(k : ℚ) * 2 ^ e - x| ≤ x / 2 ^ 53 := by
  have hle : 2 ^ 52 * 2 ^ e ≤ x := by
    rcases h.le with he | hle
    · rw [he]
      refine le_trans (le_of_eq ?_) hx
      rw [minExponent, show (-1022 : Int) = (52 : Nat) + -1074 by norm_num,
        zpow_add₀ (by norm_num), zpow_natCast]
    · exact hle
  have := h.abs_sub_le
  rw [le_div_iff₀ (by positivity)]
  nlinarith

end OnGrid

/-! ## Quotients -/

theorem onGrid_exponentFor {num den : Nat} (hn : num ≠ 0) (hd : den ≠ 0) :
    OnGrid (num / den) (exponentFor num den)
      (divNearest (scale num den (exponentFor num den)).1
        (scale num den (exponentFor num den)).2) := by
  obtain ⟨hmin, hlt, hle⟩ := exponentFor_spec hn hd
  obtain ⟨hnear, heven⟩ :=
    @divNearest_near (scale num den (exponentFor num den)).1 _
      (scale_pos (Nat.pos_of_ne_zero hd) (exponentFor num den))
  rw [scale_div] at hnear heven
  exact ⟨hmin, hlt, hle, hnear, heven⟩

/-- A number below the limit is rounded to a double with one of the exponents that there are, and no
other number is. At the greatest exponent the tie would go to the even mantissa, and overflows. -/
theorem OnGrid.exponent_le_iff {x : ℚ} {e : Int} {k : Nat} (h : OnGrid x e k) :
    (if k = 2 * leadingBit then e + 1 else e) ≤ maxExponent ↔ x < limit := by
  have hpos : (0 : ℚ) < 2 ^ maxExponent := by positivity
  have hdouble : ∀ {a b : Int}, a < b → 2 * (2 : ℚ) ^ a ≤ 2 ^ b := by
    intro a b hab
    rw [mul_comm, ← zpow_add_one₀ (by norm_num)]
    exact zpow_le_zpow_right₀ (by norm_num) hab
  rcases lt_trichotomy e maxExponent with hlt | rfl | hgt
  · have := hdouble hlt
    have := h.lt
    rw [limit_eq]
    exact iff_of_true (by split_ifs <;> omega) (by linarith)
  · have hy : x < limit ↔ x / 2 ^ maxExponent < 2 ^ 53 - 1 / 2 := by
      rw [limit_eq, div_lt_iff₀ hpos]
    rw [hy]
    have hbits : ((2 * leadingBit : Nat) : ℚ) = 2 ^ 53 := by
      push_cast [cast_leadingBit]
      norm_num
    obtain ⟨hlow, hhigh⟩ := abs_le.mp h.near
    by_cases hcarry : k = 2 * leadingBit
    · rw [if_pos hcarry]
      rw [hcarry, hbits] at hhigh
      exact iff_of_false (by omega) (by linarith)
    · have hless : k + 1 ≤ 2 * leadingBit := by
        have := h.le_two_mul_leadingBit
        omega
      have hk : (k : ℚ) + 1 ≤ 2 ^ 53 := by
        rw [← hbits]
        exact_mod_cast hless
      rw [if_neg hcarry]
      refine iff_of_true le_rfl (lt_of_le_of_ne (by linarith) fun heq => ?_)
      have heven := h.even (by rw [heq, abs_of_nonpos (by linarith)]; linarith)
      have hall : (k : ℚ) + 1 = (2 * leadingBit : Nat) := by linarith
      have : k + 1 = 2 * leadingBit := by exact_mod_cast hall
      omega
  · have := hdouble hgt
    have hleast : e ≠ minExponent := by
      rintro rfl
      exact absurd hgt (by decide)
    have := h.le.resolve_left hleast
    rw [limit_eq]
    exact iff_of_false (by split_ifs <;> omega) (by linarith)

theorem exists_rounds_grid (negative : Bool) {num den : Nat} (hn : num ≠ 0) (hd : den ≠ 0)
    (hlt : (num : ℚ) / den < limit) :
    ∃ a k, roundRatio negative num den = some a ∧ a.negative = negative ∧
      Rounds (num / den) a ∧ OnGrid (num / den) (exponentFor num den) k ∧
      a.magnitude = k * 2 ^ exponentFor num den := by
  have h := onGrid_exponentFor hn hd
  have hroom := h.exponent_le_iff.mpr hlt
  have hle := h.le_two_mul_leadingBit
  rw [roundRatio, if_neg hn]
  dsimp only
  generalize exponentFor num den = e at h hroom hle ⊢
  generalize divNearest (scale num den e).1 (scale num den e).2 = k at h hroom hle ⊢
  by_cases hcarry : k = 2 * leadingBit
  · rw [if_pos hcarry] at hroom
    rw [if_pos hcarry, if_pos (show e + 1 ≤ maxExponent from hroom)]
    have ha : magnitude ⟨negative, leadingBit, e + 1⟩ = k * 2 ^ e := by
      rw [hcarry, magnitude, zpow_add_one₀ (by norm_num)]
      push_cast
      ring
    have hw : WellFormed ⟨negative, leadingBit, e + 1⟩ :=
      ⟨show leadingBit < 2 * leadingBit by decide, Or.inr le_rfl,
        h.minExponent_le.trans (Int.le_add_one le_rfl), hroom⟩
    exact ⟨_, k, rfl, rfl, h.rounds hw ha fun _ => show leadingBit % 2 = 0 by decide, h, ha⟩
  · rw [if_neg hcarry] at hroom
    rw [if_neg hcarry, if_pos (show e ≤ maxExponent from hroom)]
    refine ⟨_, k, rfl, rfl, h.rounds ⟨?_, ?_, h.minExponent_le, hroom⟩ rfl id, h, rfl⟩
    · exact lt_of_le_of_ne hle hcarry
    · by_cases he : e = minExponent
      · exact Or.inl he
      · exact Or.inr (h.leadingBit_le he)

theorem rounds_zero (negative : Bool) : Rounds 0 ⟨negative, 0, minExponent⟩ := by
  have hw : WellFormed ⟨negative, 0, minExponent⟩ :=
    ⟨show 0 < 2 * leadingBit by decide, Or.inl rfl, le_rfl,
      show minExponent ≤ maxExponent by decide⟩
  refine ⟨hw, fun b _ => ?_, fun _ _ _ _ => rfl⟩
  simp only [magnitude, Nat.cast_zero, zero_mul, sub_self, abs_zero]
  exact abs_nonneg _

/-- A quotient of natural numbers below the limit is rounded. -/
theorem exists_rounds (negative : Bool) {num den : Nat} (hd : den ≠ 0)
    (hlt : (num : ℚ) / den < limit) :
    ∃ a, roundRatio negative num den = some a ∧ a.negative = negative ∧ Rounds (num / den) a := by
  by_cases hn : num = 0
  · subst hn
    exact ⟨_, rfl, rfl, by simpa using rounds_zero negative⟩
  · obtain ⟨a, -, ha, hs, hr, -, -⟩ := exists_rounds_grid negative hn hd hlt
    exact ⟨a, ha, hs, hr⟩

/-- A quotient from the limit on overflows. -/
theorem roundRatio_eq_none (negative : Bool) {num den : Nat} (hd : den ≠ 0)
    (hle : limit ≤ (num : ℚ) / den) : roundRatio negative num den = none := by
  have hn : num ≠ 0 := by
    rintro rfl
    rw [Nat.cast_zero, zero_div] at hle
    exact absurd hle (lt_limit (by norm_num)).not_ge
  have hover := (onGrid_exponentFor hn hd).exponent_le_iff.not.mpr hle.not_gt
  rw [roundRatio, if_neg hn]
  dsimp only
  generalize exponentFor num den = e at hover ⊢
  generalize divNearest (scale num den e).1 (scale num den e).2 = k at hover ⊢
  by_cases hcarry : k = 2 * leadingBit
  · rw [if_pos hcarry] at hover
    rw [if_pos hcarry]
    exact if_neg hover
  · rw [if_neg hcarry] at hover
    rw [if_neg hcarry]
    exact if_neg hover

namespace Rounds

variable {x : ℚ} {a : Binary64}

theorem eq_of_magnitude (h : Rounds x a) {b : Binary64} (hb : b.WellFormed)
    (hx : b.magnitude = x) : a.magnitude = x := by
  have := h.nearest b hb
  rw [hx, sub_self, abs_zero] at this
  exact sub_eq_zero.mp (abs_nonpos_iff.mp this)

/-- A double on the way from a number to zero stays on the way to what the number is rounded to. -/
theorem le_magnitude {b : Binary64} (h : Rounds x a) (hb : b.WellFormed)
    (hle : b.magnitude ≤ x) : b.magnitude ≤ a.magnitude := by
  by_contra hlt
  rw [not_le] at hlt
  have hnear := h.nearest b hb
  rw [abs_of_nonpos (by linarith), abs_of_nonpos (by linarith)] at hnear
  linarith

theorem magnitude_le {b : Binary64} (h : Rounds x a) (hb : b.WellFormed)
    (hle : x ≤ b.magnitude) : a.magnitude ≤ b.magnitude := by
  by_contra hlt
  rw [not_le] at hlt
  have hnear := h.nearest b hb
  rw [abs_of_nonneg (by linarith), abs_of_nonneg (by linarith)] at hnear
  linarith

/-- Of two doubles that are `x` rounded none is the lesser one: halfway between them there is
the double next to the lesser one, unless that is the greater one, and then not both of the
mantissas are even. -/
theorem not_magnitude_lt {b : Binary64} (ha : Rounds x a) (hb : Rounds x b) :
    ¬ a.magnitude < b.magnitude := by
  intro hlt
  have heq : |b.magnitude - x| = |a.magnitude - x| :=
    le_antisymm (hb.nearest a ha.wellFormed) (ha.nearest b hb.wellFormed)
  have hea := ha.even b hb.wellFormed heq hlt.ne'
  have heb := hb.even a ha.wellFormed heq.symm hlt.ne
  have hroom : a.mantissa + 1 < 2 * leadingBit := by
    have := ha.wellFormed.mantissa_lt
    have : leadingBit % 2 = 0 := by decide
    omega
  -- The double next to `a`.
  have hc : WellFormed ⟨false, a.mantissa + 1, a.exponent⟩ :=
    ⟨hroom, ha.wellFormed.leading.imp_right fun h => Nat.le_succ_of_le h,
      ha.wellFormed.minExponent_le, ha.wellFormed.exponent_le⟩
  have hcv : magnitude ⟨false, a.mantissa + 1, a.exponent⟩ = a.magnitude + 2 ^ a.exponent := by
    rw [magnitude, magnitude]
    push_cast
    ring
  have hpos : (0 : ℚ) < 2 ^ a.exponent := by positivity
  rcases (ha.wellFormed.add_unit_le hb.wellFormed hlt).lt_or_eq with hlt' | heq'
  · have hnear := hb.nearest _ hc
    rw [hcv] at hnear
    rcases abs_eq_abs.mp heq with h | h
    · linarith
    · have hfar : |a.magnitude + 2 ^ a.exponent - x| < b.magnitude - x :=
        abs_lt.mpr ⟨by linarith, by linarith⟩
      linarith [le_abs_self (b.magnitude - x)]
  · have := hc.mantissa_eq hb.wellFormed (hcv.trans heq')
    simp only at this
    omega

/-- A number has one rounding. -/
theorem unique {b : Binary64} (ha : Rounds x a) (hb : Rounds x b) : a.magnitude = b.magnitude :=
  le_antisymm (not_lt.mp (hb.not_magnitude_lt ha)) (not_lt.mp (ha.not_magnitude_lt hb))

/-- The rounding of a greater number is not less: otherwise the number would be below the middle of
the two, and the other one above it. -/
theorem mono {y : ℚ} {b : Binary64} (ha : Rounds x a) (hb : Rounds y b) (hle : x ≤ y) :
    a.magnitude ≤ b.magnitude := by
  by_contra hlt
  rw [not_le] at hlt
  have hbx : b.magnitude < x := not_le.mp fun h => hlt.not_ge (ha.magnitude_le hb.wellFormed h)
  have hya : y < a.magnitude := not_le.mp fun h => hlt.not_ge (hb.le_magnitude ha.wellFormed h)
  have hxmiddle := ha.nearest b hb.wellFormed
  have hymiddle := hb.nearest a ha.wellFormed
  rw [abs_of_nonneg (by linarith), abs_of_nonpos (by linarith)] at hxmiddle
  rw [abs_of_nonpos (by linarith), abs_of_nonneg (by linarith)] at hymiddle
  obtain rfl : x = y := by linarith
  exact hb.not_magnitude_lt ha hlt

/-- The relative error is half of the last of 53 bits. -/
theorem error (h : Rounds x a) (hx : 2 ^ (-1022 : Int) ≤ x) (hlt : x < limit) :
    |a.magnitude - x| ≤ x / 2 ^ 53 := by
  have hpos : 0 < x := lt_of_lt_of_le (by positivity) hx
  -- The computation gives a double that is that near.
  have hdiv : (x.num.toNat : ℚ) / x.den = x := by
    have : ((x.num.toNat : Int) : ℚ) = x.num := by
      rw [Int.toNat_of_nonneg (Rat.num_pos.mpr hpos).le]
    rw [Int.cast_natCast] at this
    rw [this, Rat.num_div_den]
  have hn : x.num.toNat ≠ 0 := by
    intro h0
    rw [h0, Nat.cast_zero, zero_div] at hdiv
    exact hpos.ne hdiv
  obtain ⟨b, k, -, -, hb, hgrid, hbk⟩ := exists_rounds_grid false hn x.den_nz (by rwa [hdiv])
  rw [hdiv] at hgrid
  have := hgrid.relative_error hx
  rw [← hbk] at this
  exact (h.nearest b hb.wellFormed).trans this

end Rounds

end CatalogLint.Binary64
