import Mathlib.Algebra.Order.Field.Power
import Mathlib.Data.Rat.Defs
import Mathlib.Tactic.FieldSimp
import Mathlib.Tactic.GCongr
import Mathlib.Tactic.Linarith
import Mathlib.Tactic.NormNum
import Mathlib.Tactic.Positivity
import Mathlib.Tactic.Qify
import Mathlib.Tactic.Ring
import RouteSchema.Number.Shortest

/-!
# Rounding

Which number of the format a quotient is rounded to. Quotients are compared as rationals, in quarters
of the last place of the number that is aimed at.

* `divNearest_eq`: a quotient of naturals is rounded to the nearest one, a tie to the even one.
* `exponentOf_spec`: at its exponent, a quotient has a significand of full length.
* `canonical_ofRatio`: every number that comes of rounding is canonical.
* `ofRatio_of_holds`: what lies in the rounding interval of a number is rounded to it.
* `ofDecimal_of_holds`: so is a decimal, whose guards against far powers are never in the way.
-/

namespace RouteSchema

namespace Shortest.Interval

/-- A rational, counted in quarters, lies in an interval. -/
def Holds (i : Interval) (y : ℚ) : Prop :=
  if i.closed then i.lower ≤ y ∧ y ≤ i.upper else i.lower < y ∧ y < i.upper

theorem Holds.bounds {i : Interval} {y : ℚ} (h : i.Holds y) : i.lower ≤ y ∧ y ≤ i.upper := by
  rw [Holds] at h
  split at h
  · exact h
  · exact ⟨h.1.le, h.2.le⟩

variable {m : ℕ} {e : ℤ} {y : ℚ}

theorem le_lower_ofSignificand (hm : 0 < m) : (4 * m - 2 : ℚ) ≤ (ofSignificand m e).lower := by
  rw [ofSignificand]
  split_ifs
  all_goals
    push_cast [show 1 ≤ 4 * m by omega, show 2 ≤ 4 * m by omega]
    linarith

/-- The interval of a significand ends within half of the last place. -/
theorem Holds.within_half (hm : 0 < m) (h : (ofSignificand m e).Holds (4 * y)) :
    2 * m - 1 ≤ 2 * y ∧ 2 * y ≤ 2 * m + 1 ∧
      (m % 2 = 1 → 2 * m - 1 < 2 * y ∧ 2 * y < 2 * m + 1) := by
  have least := le_lower_ofSignificand (e := e) hm
  have greatest : ((ofSignificand m e).upper : ℚ) = 4 * m + 2 := by simp [ofSignificand]
  obtain ⟨lower, upper⟩ := h.bounds
  refine ⟨by linarith, by linarith, fun odd => ?_⟩
  have isOpen : (ofSignificand m e).closed = false := by simp [ofSignificand, odd]
  rw [Holds, isOpen, if_neg Bool.false_ne_true] at h
  exact ⟨by linarith, by linarith⟩

/-- Below a power of two the interval ends within a quarter. -/
theorem Holds.within_quarter (least : Binary64.leastExponent < e)
    (h : (ofSignificand (2 ^ 52) e).Holds (4 * y)) : 4 * 2 ^ 52 - 1 ≤ 4 * y := by
  have lower : (ofSignificand (2 ^ 52) e).lower = 4 * 2 ^ 52 - 1 := by
    rw [ofSignificand]
    exact if_pos ⟨rfl, least⟩
  have bound := h.bounds.1
  rw [lower] at bound
  exact_mod_cast bound

end Shortest.Interval

namespace Binary64

/-! ## Quotients of naturals -/

section

variable {n d k : ℕ}

theorem div_le_divNearest : n / d ≤ divNearest n d := by
  simp only [divNearest]
  split
  · exact Nat.le_succ _
  · exact le_rfl

theorem divNearest_le (hd : 0 < d) (h : n ≤ k * d) : divNearest n d ≤ k := by
  have split_n := Nat.div_add_mod n d
  simp only [divNearest]
  split
  next up =>
    -- a quotient that is rounded up has a remainder, so it is below `k`
    have rest : 0 < n % d := by
      simp only [Bool.or_eq_true, decide_eq_true_eq, Bool.and_eq_true, beq_iff_eq] at up
      omega
    refine Nat.succ_le_of_lt (Nat.lt_of_mul_lt_mul_left (a := d) ?_)
    calc d * (n / d) < n := by omega
      _ ≤ d * k := by rwa [Nat.mul_comm d k]
  next => exact Nat.div_le_of_le_mul (by rwa [Nat.mul_comm d k])

theorem le_divNearest (hd : 0 < d) (h : k * d ≤ n) : k ≤ divNearest n d :=
  ((Nat.le_div_iff_mul_le hd).2 h).trans div_le_divNearest

/-- The nearest natural to a quotient is the one within half of a unit; at that distance, it has to
be even. -/
theorem divNearest_eq (hd : 0 < d) (lower : 2 * k * d ≤ 2 * n + d) (upper : 2 * n ≤ 2 * k * d + d)
    (odd : k % 2 = 1 → 2 * k * d < 2 * n + d ∧ 2 * n < 2 * k * d + d) : divNearest n d = k := by
  obtain ⟨a, r, hr, rfl⟩ : ∃ a r, r < d ∧ n = d * a + r :=
    ⟨n / d, n % d, Nat.mod_lt n hd, (Nat.div_add_mod n d).symm⟩
  have quotient : (d * a + r) / d = a := by
    rw [Nat.mul_add_div hd, Nat.div_eq_of_lt hr, Nat.add_zero]
  have remainder : (d * a + r) % d = r := by rw [Nat.mul_add_mod, Nat.mod_eq_of_lt hr]
  -- only the quotient and the number after it are within half of a unit
  have least : a ≤ k := by
    by_contra above
    have : d * (k + 1) ≤ d * a := Nat.mul_le_mul_left d (by omega)
    nlinarith
  have greatest : k ≤ a + 1 := by
    by_contra below
    have : d * (a + 2) ≤ d * k := Nat.mul_le_mul_left d (by omega)
    nlinarith
  simp only [divNearest, quotient, remainder]
  obtain rfl | rfl : k = a ∨ k = a + 1 := by omega
  · have half : 2 * r ≤ d := by nlinarith
    have tie : k % 2 = 1 → 2 * r < d := fun h => by nlinarith [(odd h).2]
    rw [if_neg]
    simp only [Bool.or_eq_true, decide_eq_true_eq, Bool.and_eq_true, beq_iff_eq]
    omega
  · have half : d ≤ 2 * r := by nlinarith
    have tie : (a + 1) % 2 = 1 → d < 2 * r := fun h => by nlinarith [(odd h).1]
    rw [if_pos]
    simp only [Bool.or_eq_true, decide_eq_true_eq, Bool.and_eq_true, beq_iff_eq]
    omega

end

/-! ## Exponents -/

section

variable {n d : ℕ}

theorem bitLength_pos (h : 0 < n) : bitLength n = n.log2 + 1 := by
  rw [bitLength, if_neg (by omega)]

theorem bitLength_le_iff {k : ℕ} : bitLength n ≤ k ↔ n < 2 ^ k := by
  rcases Nat.eq_zero_or_pos n with rfl | h
  · simp [bitLength]
  · rw [bitLength_pos h, Nat.succ_le_iff, Nat.log2_lt h.ne']

theorem lt_two_pow_bitLength (n : ℕ) : (n : ℚ) < 2 ^ bitLength n := by
  exact_mod_cast bitLength_le_iff.1 le_rfl

theorem two_pow_bitLength_le (h : 0 < n) : (2 : ℚ) ^ bitLength n ≤ 2 * n := by
  rw [bitLength_pos h, pow_succ, mul_comm]
  have : 2 ^ n.log2 ≤ n := Nat.log2_self_le (by omega)
  have : (2 : ℚ) ^ n.log2 ≤ n := by exact_mod_cast this
  linarith

theorem scaled_pos (h : 0 < d) (e : ℤ) : 0 < (scaled n d e).2 := by
  rw [scaled]
  split
  · simp only [Nat.shiftLeft_eq]
    positivity
  · exact h

/-- Scaling divides by a power of two. -/
theorem scaled_div (n d : ℕ) (e : ℤ) :
    ((scaled n d e).1 : ℚ) / (scaled n d e).2 = n / d / 2 ^ e := by
  rw [scaled]
  split
  next h =>
    obtain ⟨k, rfl⟩ := Int.eq_ofNat_of_zero_le h
    simp only [Int.toNat_natCast, Nat.shiftLeft_eq, zpow_natCast]
    push_cast
    rw [div_div]
  next h =>
    obtain ⟨k, hk⟩ := Int.eq_ofNat_of_zero_le (a := -e) (by omega)
    obtain rfl : e = -k := by omega
    simp only [neg_neg, Int.toNat_natCast, Nat.shiftLeft_eq, zpow_neg, zpow_natCast]
    push_cast
    field_simp

theorem one_shiftLeft_precision : 1 <<< precision = 2 ^ 53 := rfl

theorem one_shiftLeft_precision_pred : 1 <<< (precision - 1) = 2 ^ 52 := rfl

/-- The numbers of digits alone give the exponent up to one. -/
theorem div_guess (hn : 0 < n) (hd : 0 < d) :
    let x := (n : ℚ) / d / 2 ^ ((bitLength n : ℤ) - bitLength d - precision)
    2 ^ 52 < x ∧ x < 2 ^ 54 := by
  intro x
  have hd' : (0 : ℚ) < d := by exact_mod_cast hd
  have nLower := two_pow_bitLength_le hn
  have nUpper := lt_two_pow_bitLength n
  have dLower := two_pow_bitLength_le hd
  have dUpper := lt_two_pow_bitLength d
  have hx : x = n * 2 ^ bitLength d * 2 ^ 53 / (d * 2 ^ bitLength n) := by
    show (n : ℚ) / d / 2 ^ ((bitLength n : ℤ) - bitLength d - (53 : ℕ)) = _
    rw [zpow_sub₀ two_ne_zero, zpow_sub₀ two_ne_zero, zpow_natCast, zpow_natCast, zpow_natCast]
    field_simp
  rw [hx, lt_div_iff₀ (by positivity), div_lt_iff₀ (by positivity)]
  constructor
  · calc (2 : ℚ) ^ 52 * (d * 2 ^ bitLength n : ℚ)
        ≤ 2 ^ 52 * (d * (2 * n) : ℚ) := by gcongr
      _ = (n * d : ℚ) * 2 ^ 53 := by ring
      _ < (n * 2 ^ bitLength d : ℚ) * 2 ^ 53 := by gcongr
  · calc (n * 2 ^ bitLength d : ℚ) * 2 ^ 53
        ≤ (n * (2 * d) : ℚ) * 2 ^ 53 := by gcongr
      _ = 2 ^ 54 * (d * n : ℚ) := by ring
      _ < 2 ^ 54 * (d * 2 ^ bitLength n : ℚ) := by gcongr

/-- Before it is bounded, the exponent of a quotient gives its significand full length. -/
theorem exists_exponentOf_eq_max (hn : 0 < n) (hd : 0 < d) :
    ∃ exact : ℤ, exponentOf n d = max exact leastExponent ∧
      (n : ℚ) / d < 2 ^ (53 : ℤ) * 2 ^ exact ∧ (2 : ℚ) ^ (52 : ℤ) * 2 ^ exact ≤ n / d := by
  obtain ⟨guess, hguess⟩ : ∃ g : ℤ, g = (bitLength n : ℤ) - bitLength d - precision := ⟨_, rfl⟩
  obtain ⟨lower, upper⟩ := div_guess hn hd
  rw [← hguess, ← scaled_div] at lower upper
  have pos : (0 : ℚ) < (scaled n d guess).2 := by exact_mod_cast scaled_pos hd guess
  have unscale : (n : ℚ) / d = (scaled n d guess).1 / (scaled n d guess).2 * 2 ^ guess := by
    rw [scaled_div]
    field_simp
  have floor : ¬ (scaled n d guess).1 / (scaled n d guess).2 < 2 ^ 52 := by
    rw [Nat.div_lt_iff_lt_mul (by exact_mod_cast pos)]
    rw [lt_div_iff₀ pos] at lower
    exact_mod_cast lower.le.not_gt
  have power : (0 : ℚ) < 2 ^ guess := by positivity
  simp only [exponentOf, ← hguess, one_shiftLeft_precision, one_shiftLeft_precision_pred,
    if_neg floor]
  by_cases short : (scaled n d guess).1 / (scaled n d guess).2 < 2 ^ 53
  · refine ⟨guess, by rw [if_pos short], ?_, ?_⟩
    · rw [Nat.div_lt_iff_lt_mul (by exact_mod_cast pos)] at short
      have : ((scaled n d guess).1 : ℚ) / (scaled n d guess).2 < 2 ^ 53 := by
        rw [div_lt_iff₀ pos]
        exact_mod_cast short
      rw [unscale]
      exact mul_lt_mul_of_pos_right (by exact_mod_cast this) power
    · rw [unscale]
      exact mul_le_mul_of_nonneg_right (by exact_mod_cast lower.le) power.le
  · have double : (2 : ℚ) ^ (guess + 1) = 2 * 2 ^ guess := by
      rw [zpow_add_one₀ two_ne_zero, mul_comm]
    refine ⟨guess + 1, by rw [if_neg short], ?_, ?_⟩
    · rw [unscale, double, ← mul_assoc]
      refine mul_lt_mul_of_pos_right (upper.trans_eq ?_) power
      norm_num
    · rw [Nat.div_lt_iff_lt_mul (by exact_mod_cast pos), not_lt] at short
      have : (2 : ℚ) ^ 53 ≤ (scaled n d guess).1 / (scaled n d guess).2 := by
        rw [le_div_iff₀ pos]
        exact_mod_cast short
      rw [unscale, double, ← mul_assoc]
      refine mul_le_mul_of_nonneg_right (le_trans (le_of_eq ?_) this) power.le
      norm_num

/-- At the exponent of a quotient its significand has at most full length, and less only at the
least exponent. -/
theorem exponentOf_spec (hn : 0 < n) (hd : 0 < d) :
    (n : ℚ) / d < 2 ^ (53 : ℤ) * 2 ^ exponentOf n d ∧ leastExponent ≤ exponentOf n d ∧
      (exponentOf n d = leastExponent ∨ (2 : ℚ) ^ (52 : ℤ) * 2 ^ exponentOf n d ≤ n / d) := by
  obtain ⟨exact, hexact, below, above⟩ := exists_exponentOf_eq_max hn hd
  rw [hexact]
  refine ⟨below.trans_le ?_, le_max_right _ _, ?_⟩
  · gcongr
    · norm_num
    · exact le_max_left _ _
  · rcases le_total exact leastExponent with low | high
    · exact .inl (max_eq_right low)
    · exact .inr (by rwa [max_eq_left high])

end

/-! ## Rounded quotients -/

section

variable {negative : Bool} {n d m : ℕ} {e : ℤ}

theorem canonical_zero (negative : Bool) : Canonical (zero negative) :=
  ⟨by decide, le_rfl, by decide, .inl rfl⟩

/-- The significand of a quotient at its exponent, before a carry. -/
theorem divNearest_scaled_le (hn : 0 < n) (hd : 0 < d) :
    divNearest (scaled n d (exponentOf n d)).1 (scaled n d (exponentOf n d)).2 ≤ 2 ^ 53 := by
  have pos := scaled_pos (n := n) hd (exponentOf n d)
  refine divNearest_le pos ?_
  have below := (exponentOf_spec hn hd).1
  have quotient := scaled_div n d (exponentOf n d)
  rw [div_eq_iff (by positivity)] at quotient
  have : ((scaled n d (exponentOf n d)).1 : ℚ) ≤ 2 ^ 53 * (scaled n d (exponentOf n d)).2 := by
    rw [quotient]
    refine mul_le_mul_of_nonneg_right ?_ (Nat.cast_nonneg _)
    rw [div_le_iff₀ (by positivity)]
    exact_mod_cast below.le
  exact_mod_cast this

theorem le_divNearest_scaled (hn : 0 < n) (hd : 0 < d) (above : leastExponent < exponentOf n d) :
    2 ^ 52 ≤ divNearest (scaled n d (exponentOf n d)).1 (scaled n d (exponentOf n d)).2 := by
  have pos := scaled_pos (n := n) hd (exponentOf n d)
  refine le_divNearest pos ?_
  have full := (exponentOf_spec hn hd).2.2.resolve_left above.ne'
  have quotient := scaled_div n d (exponentOf n d)
  rw [div_eq_iff (by positivity)] at quotient
  have : (2 : ℚ) ^ 52 * (scaled n d (exponentOf n d)).2 ≤ (scaled n d (exponentOf n d)).1 := by
    rw [quotient]
    refine mul_le_mul_of_nonneg_right ?_ (Nat.cast_nonneg _)
    rw [le_div_iff₀ (by positivity)]
    exact_mod_cast full
  exact_mod_cast this

/-- What rounds to a significand at the exponent of a quotient. -/
theorem ofRatio_eq (hn : 0 < n) (hd : 0 < d) (he : exponentOf n d = e)
    (hm : divNearest (scaled n d e).1 (scaled n d e).2 = m) :
    ofRatio negative n d =
      if m = 2 ^ 53 then
        if e + 1 > greatestExponent then .infinite negative else .finite negative (2 ^ 52) (e + 1)
      else if e > greatestExponent then .infinite negative else .finite negative m e := by
  have some : ¬ (n = 0 ∨ d = 0) := by omega
  simp only [ofRatio, if_neg some, one_shiftLeft_precision, one_shiftLeft_precision_pred, he, hm]
  by_cases carry : m = 2 ^ 53
  · simp only [if_pos carry]
  · simp only [if_neg carry]

/-- Every number that comes of rounding is canonical. -/
theorem canonical_ofRatio (negative : Bool) (n d : ℕ) : Canonical (ofRatio negative n d) := by
  by_cases none : n = 0 ∨ d = 0
  · rw [ofRatio, if_pos none]
    exact canonical_zero negative
  · have hn : 0 < n := by omega
    have hd : 0 < d := by omega
    have least := (exponentOf_spec hn hd).2.1
    have atMost := divNearest_scaled_le hn hd
    have atLeast := le_divNearest_scaled hn hd
    rw [ofRatio_eq hn hd rfl rfl]
    split_ifs
    · trivial
    · refine ⟨?_, by omega, by omega, .inr ?_⟩
      · rw [one_shiftLeft_precision]
        norm_num
      · rw [one_shiftLeft_precision_pred]
    · trivial
    · refine ⟨?_, least, by omega, ?_⟩
      · rw [one_shiftLeft_precision]
        omega
      · rw [one_shiftLeft_precision_pred]
        exact least.eq_or_lt.imp Eq.symm atLeast

theorem canonical_ofDecimal (negative : Bool) (digits : ℕ) (power : ℤ) :
    Canonical (ofDecimal negative digits power) := by
  simp only [ofDecimal]
  split_ifs
  · exact canonical_zero negative
  · trivial
  · exact canonical_zero negative
  · exact canonical_ofRatio ..
  · exact canonical_ofRatio ..

/-- A quotient below a significand of full length at an exponent has at most that exponent. -/
theorem exponentOf_le (hn : 0 < n) (hd : 0 < d) (least : leastExponent ≤ e)
    (below : (n : ℚ) / d < 2 ^ (53 : ℤ) * 2 ^ e) : exponentOf n d ≤ e := by
  obtain ⟨-, -, isLeast | above⟩ := exponentOf_spec hn hd
  · omega
  · have : (2 : ℚ) ^ (52 : ℤ) * 2 ^ exponentOf n d < 2 ^ (53 : ℤ) * 2 ^ e := above.trans_lt below
    rw [← zpow_add₀ two_ne_zero, ← zpow_add₀ two_ne_zero, zpow_lt_zpow_iff_right₀ one_lt_two]
      at this
    omega

/-- A quotient within half of the last place of a significand is rounded to it. -/
theorem divNearest_scaled_eq (hd : 0 < d) {y : ℚ} (hy : y = n / d / 2 ^ e)
    (lower : 2 * m - 1 ≤ 2 * y) (upper : 2 * y ≤ 2 * m + 1)
    (odd : m % 2 = 1 → 2 * m - 1 < 2 * y ∧ 2 * y < 2 * m + 1) :
    divNearest (scaled n d e).1 (scaled n d e).2 = m := by
  have pos : (0 : ℚ) < (scaled n d e).2 := by exact_mod_cast scaled_pos hd e
  rw [← scaled_div, eq_div_iff pos.ne'] at hy
  have numerator : ((scaled n d e).1 : ℚ) = y * (scaled n d e).2 := hy.symm
  refine divNearest_eq (by exact_mod_cast pos) ?_ ?_ fun h => ⟨?_, ?_⟩
  all_goals
    qify
    rw [numerator]
  · nlinarith
  · nlinarith
  · nlinarith [(odd h).1]
  · nlinarith [(odd h).2]

/-- What lies in the rounding interval of a number is rounded to it. -/
theorem ofRatio_of_holds (hn : 0 < n) (hd : 0 < d) (canonical : Canonical (.finite negative m e))
    (hm : 0 < m) {y : ℚ} (hy : y = n / d / 2 ^ e)
    (h : (Shortest.Interval.ofSignificand m e).Holds (4 * y)) :
    ofRatio negative n d = .finite negative m e := by
  obtain ⟨short, least, greatest, full⟩ := canonical
  rw [one_shiftLeft_precision] at short
  rw [one_shiftLeft_precision_pred] at full
  obtain ⟨below, atLeast, -⟩ := exponentOf_spec hn hd
  obtain ⟨lower, upper, odd⟩ := h.within_half hm
  have short' : (m : ℚ) + 1 ≤ 2 ^ 53 := by exact_mod_cast short
  have value : (n : ℚ) / d = y * 2 ^ e := by
    rw [hy]
    field_simp
  rw [value] at below
  have atMost : exponentOf n d ≤ e :=
    exponentOf_le hn hd least (by rw [value]; gcongr; norm_num; linarith)
  rcases atMost.eq_or_lt with same | lower_exponent
  · rw [ofRatio_eq hn hd same (divNearest_scaled_eq hd hy lower upper odd), if_neg short.ne,
      if_neg (by omega)]
  · -- the quotient lies below the power of two that `m` is, and is rounded up to it
    have bound (k : ℤ) (hk : exponentOf n d ≤ e - k) : y < 2 ^ (53 - k) := by
      have : y * 2 ^ e < 2 ^ (53 - k) * 2 ^ e := by
        refine below.trans_le ?_
        rw [← zpow_add₀ two_ne_zero, ← zpow_add₀ two_ne_zero]
        exact zpow_le_zpow_right₀ one_le_two (by omega)
      exact lt_of_mul_lt_mul_right this (by positivity)
    have low := bound 1 (by omega)
    norm_num at low
    obtain rfl : m = 2 ^ 52 := by
      have : (m : ℚ) < 2 ^ 52 + 1 := by linarith
      have : m < 2 ^ 52 + 1 := by exact_mod_cast this
      have := full.resolve_left (by omega)
      omega
    have quarter := h.within_quarter (by omega)
    have next : exponentOf n d = e - 1 := by
      by_contra lower
      have := bound 2 (by omega)
      norm_num at this
      linarith
    have double : 2 * y = n / d / 2 ^ (e - 1) := by
      rw [value, zpow_sub_one₀ two_ne_zero]
      field_simp
    rw [ofRatio_eq hn hd next (divNearest_scaled_eq (m := 2 ^ 53) hd double ?_ ?_ ?_), if_pos rfl,
      sub_add_cancel, if_neg (by omega)]
    · push_cast
      linarith
    · push_cast
      linarith
    · norm_num

end

/-! ## Decimals -/

/-- Decimal powers against binary ones, by `2 ^ 93 < 10 ^ 28` and `10 ^ 59 < 2 ^ 196`. -/
theorem two_zpow_le_ten_zpow {a p : ℤ} (h : 30103 * a ≤ 100000 * p) (least : -6000 ≤ a)
    (greatest : a ≤ 6000) : (2 : ℚ) ^ (a - 1) ≤ 10 ^ p := by
  rcases le_or_gt 0 p with hp | hp
  · refine (pow_le_pow_iff_left₀ (by positivity) (by positivity) (by norm_num : 28 ≠ 0)).1 ?_
    calc ((2 : ℚ) ^ (a - 1)) ^ 28 = 2 ^ ((a - 1) * 28) := by rw [zpow_mul]; rfl
      _ ≤ 2 ^ (93 * p) := zpow_le_zpow_right₀ one_le_two (by omega)
      _ = (2 ^ (93 : ℤ)) ^ p := zpow_mul ..
      _ ≤ (10 ^ (28 : ℤ)) ^ p := zpow_le_zpow_left₀ hp (by positivity) (by norm_num)
      _ = (10 ^ p) ^ 28 := by rw [← zpow_mul, mul_comm, zpow_mul]; rfl
  · refine (pow_le_pow_iff_left₀ (by positivity) (by positivity) (by norm_num : 59 ≠ 0)).1 ?_
    have inverse : (10 : ℚ) ^ (-(59 * p)) ≤ 2 ^ (-(196 * p)) :=
      calc (10 : ℚ) ^ (-(59 * p)) = (10 ^ (59 : ℤ)) ^ (-p) := by rw [← zpow_mul, mul_neg]
        _ ≤ (2 ^ (196 : ℤ)) ^ (-p) :=
          zpow_le_zpow_left₀ (by omega) (by positivity) (by norm_num)
        _ = 2 ^ (-(196 * p)) := by rw [← zpow_mul, mul_neg]
    rw [zpow_neg, zpow_neg, inv_le_inv₀ (by positivity) (by positivity)] at inverse
    calc ((2 : ℚ) ^ (a - 1)) ^ 59 = 2 ^ ((a - 1) * 59) := by rw [zpow_mul]; rfl
      _ ≤ 2 ^ (196 * p) := zpow_le_zpow_right₀ one_le_two (by omega)
      _ ≤ 10 ^ (59 * p) := inverse
      _ = (10 ^ p) ^ 59 := by rw [mul_comm, zpow_mul]; rfl

theorem ten_zpow_le_two_zpow {a p : ℤ} (h : 100000 * p ≤ 30103 * a) (least : -6000 ≤ a)
    (greatest : a ≤ 6000) : (10 : ℚ) ^ p ≤ 2 ^ (a + 1) := by
  have inverse : (2 : ℚ) ^ (-a - 1) ≤ 10 ^ (-p) :=
    two_zpow_le_ten_zpow (by omega) (by omega) (by omega)
  rw [show -a - 1 = -(a + 1) by ring, zpow_neg, zpow_neg,
    inv_le_inv₀ (by positivity) (by positivity)] at inverse
  exact inverse

section

variable {negative : Bool} {digits m : ℕ} {power e : ℤ}

/-- A decimal below the bound of what is finite does not meet the guard against great powers. -/
theorem not_far_above (hd : 0 < digits) (short : bitLength digits ≤ 200)
    (greatest : (digits : ℚ) * 10 ^ power < 2 ^ (53 + 971 : ℤ)) :
    ¬ (bitLength digits : ℤ) * 30103 / 100000 + power > 320 := by
  intro far
  have : (10 : ℚ) ^ (321 - power) ≤ 2 ^ ((bitLength digits : ℤ) + 1) :=
    ten_zpow_le_two_zpow (by omega) (by omega) (by omega)
  rw [zpow_sub₀ (by norm_num), div_le_iff₀ (by positivity), zpow_add_one₀ two_ne_zero,
    zpow_natCast] at this
  have above : (2 : ℚ) ^ (1066 - 1 : ℤ) ≤ 10 ^ (321 : ℤ) :=
    two_zpow_le_ten_zpow (by norm_num) (by norm_num) (by norm_num)
  refine absurd ?_ ((zpow_lt_zpow_iff_right₀ (one_lt_two (α := ℚ))).not.2
    (by norm_num : ¬ (1066 - 1 : ℤ) < 53 + 971 + 1 + 1))
  calc (2 : ℚ) ^ (1066 - 1 : ℤ)
      ≤ 2 ^ bitLength digits * 2 * 10 ^ power := above.trans this
    _ ≤ 2 * digits * 2 * 10 ^ power := by
      gcongr
      exact two_pow_bitLength_le hd
    _ = digits * 10 ^ power * 2 * 2 := by ring
    _ < 2 ^ (53 + 971 + 1 + 1 : ℤ) := by
      rw [zpow_add_one₀ two_ne_zero, zpow_add_one₀ two_ne_zero]
      gcongr

/-- A decimal of half the least number or more does not meet the guard against small powers. -/
theorem not_far_below (short : bitLength digits ≤ 200)
    (least : (2 : ℚ) ^ (-1 + -1074 : ℤ) ≤ digits * 10 ^ power) :
    ¬ (bitLength digits : ℤ) * 30103 / 100000 + power < -340 := by
  intro far
  have : (2 : ℚ) ^ ((bitLength digits : ℤ) - 1) ≤ 10 ^ (-340 - power) :=
    two_zpow_le_ten_zpow (by omega) (by omega) (by omega)
  rw [zpow_sub₀ (by norm_num) (-340), le_div_iff₀ (by positivity), zpow_sub_one₀ two_ne_zero,
    zpow_natCast] at this
  have below : (10 : ℚ) ^ (-340 : ℤ) ≤ 2 ^ (-1129 + 1 : ℤ) :=
    ten_zpow_le_two_zpow (by norm_num) (by norm_num) (by norm_num)
  refine absurd ?_ ((zpow_lt_zpow_iff_right₀ (one_lt_two (α := ℚ))).not.2
    (by norm_num : ¬ (-1 + -1074 : ℤ) < -1129 + 1 + 1))
  calc (2 : ℚ) ^ (-1 + -1074 : ℤ) ≤ digits * 10 ^ power := least
    _ < 2 ^ bitLength digits * 10 ^ power := by
      gcongr
      exact lt_two_pow_bitLength digits
    _ = 2 ^ bitLength digits * 2⁻¹ * 10 ^ power * 2 := by ring
    _ ≤ 2 ^ (-1129 + 1 : ℤ) * 2 := by
      gcongr
      exact this.trans below
    _ = 2 ^ (-1129 + 1 + 1 : ℤ) := (zpow_add_one₀ two_ne_zero _).symm

/-- A decimal at which neither guard against far powers applies is a quotient. -/
theorem ofDecimal_eq (negative : Bool) (hd : 0 < digits) (short : bitLength digits ≤ 200)
    (least : (2 : ℚ) ^ (-1 + -1074 : ℤ) ≤ digits * 10 ^ power)
    (greatest : (digits : ℚ) * 10 ^ power < 2 ^ (53 + 971 : ℤ)) :
    ∃ n d : ℕ, 0 < n ∧ 0 < d ∧ (n : ℚ) / d = digits * 10 ^ power ∧
      ofDecimal negative digits power = ofRatio negative n d := by
  simp only [ofDecimal, if_neg hd.ne', if_neg (not_far_above hd short greatest),
    if_neg (not_far_below short least)]
  split
  next h =>
    obtain ⟨k, rfl⟩ := Int.eq_ofNat_of_zero_le h
    refine ⟨_, 1, ?_, one_pos, ?_, rfl⟩
    · exact Nat.mul_pos hd (Nat.pow_pos (by norm_num))
    · simp
  next h =>
    obtain ⟨k, hk⟩ := Int.eq_ofNat_of_zero_le (a := -power) (by omega)
    obtain rfl : power = -k := by omega
    refine ⟨digits, _, hd, ?_, ?_, rfl⟩
    · exact Nat.pow_pos (by norm_num)
    · simp [div_eq_mul_inv]

/-- A decimal in the rounding interval of a number is rounded to it. -/
theorem ofDecimal_of_holds (canonical : Canonical (.finite negative m e)) (hm : 0 < m)
    (short : bitLength digits ≤ 200)
    (h : (Shortest.Interval.ofSignificand m e).Holds (4 * (digits * 10 ^ power / 2 ^ e))) :
    ofDecimal negative digits power = .finite negative m e := by
  obtain ⟨full, least, greatest, -⟩ := id canonical
  obtain ⟨lower, upper, -⟩ := h.within_half hm
  have hm' : (1 : ℚ) ≤ m := by exact_mod_cast hm
  have full' : (m : ℚ) + 1 ≤ 2 ^ 53 := by exact_mod_cast full
  have value : (digits : ℚ) * 10 ^ power = digits * 10 ^ power / 2 ^ e * 2 ^ e := by field_simp
  have atLeast : (2 : ℚ) ^ (-1 + -1074 : ℤ) ≤ digits * 10 ^ power := by
    rw [zpow_add₀ two_ne_zero, value]
    have half : (2 : ℚ) ^ (-1 : ℤ) ≤ digits * 10 ^ power / 2 ^ e := by
      norm_num
      linarith
    exact mul_le_mul half (zpow_le_zpow_right₀ one_le_two least) (by positivity) (by positivity)
  have below : (digits : ℚ) * 10 ^ power < 2 ^ (53 + 971 : ℤ) := by
    rw [zpow_add₀ two_ne_zero, value]
    have whole : (digits : ℚ) * 10 ^ power / 2 ^ e < 2 ^ (53 : ℤ) := by
      norm_num
      linarith
    exact mul_lt_mul whole (zpow_le_zpow_right₀ one_le_two greatest) (by positivity)
      (by positivity)
  have hd : 0 < digits := by
    rcases Nat.eq_zero_or_pos digits with rfl | hd
    · rw [Nat.cast_zero, zero_mul] at atLeast
      exact absurd atLeast (not_le.2 (by positivity))
    · exact hd
  obtain ⟨n, d, hn, hd, quotient, same⟩ := ofDecimal_eq negative hd short atLeast below
  rw [same]
  exact ofRatio_of_holds hn hd canonical hm (by rw [quotient]) h

end

end Binary64

end RouteSchema
