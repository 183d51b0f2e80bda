import RouteSchema.Proofs.Rounding

/-!
# Shortening

The decimal that stands for a number in a text lies in the rounding interval of the number, so that
rounding leads back from it.

* `holds_of_onGrid?` and `exists_onGrid?`: what a grid gives lies in the interval, and a grid that is
  finer than half of the last place gives something.
* `search_holds`: the search gets to such a grid.
* `digits_holds`: the shortest decimal of a number lies in the interval of the number.
-/

namespace RouteSchema.Shortest

/-! ## Grids -/

theorem Interval.contains_iff (i : Interval) {n d : ℕ} (hd : 0 < d) :
    i.contains n d = true ↔ i.Holds (n / d) := by
  have hd' : (0 : ℚ) < d := by exact_mod_cast hd
  rw [contains, Holds]
  split
  · rw [Bool.and_eq_true, decide_eq_true_iff, decide_eq_true_iff, le_div_iff₀ hd', div_le_iff₀ hd']
    norm_cast
  · rw [Bool.and_eq_true, decide_eq_true_iff, decide_eq_true_iff, lt_div_iff₀ hd', div_lt_iff₀ hd']
    norm_cast

theorem zpow_eq_div {a : ℚ} (ha : a ≠ 0) (z : ℤ) : a ^ z = a ^ z.toNat / a ^ (-z).toNat := by
  rw [← zpow_natCast, ← zpow_natCast, ← zpow_sub₀ ha]
  congr 1
  omega

section

variable {m d : ℕ} {e power : ℤ}

/-- The width of a grid as a quotient of naturals. -/
theorem grid_width (e power : ℤ) :
    ((Nat.pow 10 power.toNat <<< (-(e - 2)).toNat : ℕ) : ℚ) /
      (Nat.pow 10 (-power).toNat <<< (e - 2).toNat : ℕ) = 4 * (10 ^ power / 2 ^ e) := by
  have quarters : (2 : ℚ) ^ e = 4 * 2 ^ (e - 2) := by
    rw [zpow_sub₀ two_ne_zero]
    norm_num
    ring
  rw [quarters, zpow_eq_div (by norm_num) power, zpow_eq_div two_ne_zero (e - 2)]
  simp only [Nat.shiftLeft_eq, Nat.pow_eq]
  push_cast
  field_simp

theorem grid_pos (a b : ℕ) : 0 < Nat.pow 10 a <<< b := by
  rw [Nat.shiftLeft_eq]
  exact Nat.mul_pos (Nat.pow_pos (by norm_num)) (Nat.pow_pos (by norm_num))

/-- Whether a multiple of the width of a grid lies in the rounding interval. -/
theorem fits_iff (m d : ℕ) (e power : ℤ) :
    (Interval.ofSignificand m e).contains (d * Nat.pow 10 power.toNat <<< (-(e - 2)).toNat)
        (Nat.pow 10 (-power).toNat <<< (e - 2).toNat) = true ↔
      (Interval.ofSignificand m e).Holds (4 * (d * 10 ^ power / 2 ^ e)) := by
  rw [Interval.contains_iff _ (grid_pos _ _)]
  have width : ((d * Nat.pow 10 power.toNat <<< (-(e - 2)).toNat : ℕ) : ℚ) /
      (Nat.pow 10 (-power).toNat <<< (e - 2).toNat : ℕ) = 4 * (d * 10 ^ power / 2 ^ e) := by
    rw [Nat.cast_mul, mul_div_assoc, grid_width]
    ring
  rw [width]

theorem holds_of_onGrid? (h : onGrid? m e power = some d) :
    (Interval.ofSignificand m e).Holds (4 * (d * 10 ^ power / 2 ^ e)) := by
  rw [← fits_iff]
  -- whatever the order of the neighbours, the one that is given has been tried
  simp only [onGrid?] at h
  split_ifs at h
  all_goals
    cases h
    assumption

/-- A number that lies between the ends. -/
theorem Interval.holds_of_lt {i : Interval} {y : ℚ} (lower : i.lower < y) (upper : y < i.upper) :
    i.Holds y := by
  rw [Holds]
  split
  · exact ⟨lower.le, upper.le⟩
  · exact ⟨lower, upper⟩

/-- On a grid finer than half of the last place, the next multiple above a number rounds to it. -/
theorem exists_onGrid? (fine : 2 * (10 : ℚ) ^ power < 2 ^ e) :
    ∃ d, onGrid? m e power = some d := by
  rw [← Option.ne_none_iff_exists']
  intro none
  obtain ⟨left, hleft⟩ : ∃ l, l = Nat.pow 10 (-power).toNat <<< (e - 2).toNat := ⟨_, rfl⟩
  obtain ⟨right, hright⟩ : ∃ r, r = Nat.pow 10 power.toNat <<< (-(e - 2)).toNat := ⟨_, rfl⟩
  have leftPos : 0 < left := hleft ▸ grid_pos _ _
  have rightPos : 0 < right := hright ▸ grid_pos _ _
  have leftPos' : (0 : ℚ) < left := by exact_mod_cast leftPos
  have misfit : ¬ (Interval.ofSignificand m e).contains ((4 * m * left / right + 1) * right) left
      = true := by
    simp only [onGrid?, ← hleft, ← hright] at none
    split_ifs at none
    all_goals assumption
  have width : (right : ℚ) / left < 2 := by
    rw [hleft, hright, grid_width, ← mul_div_assoc, div_lt_iff₀ (by positivity)]
    linarith
  -- the neighbour above is above the number by less than the width
  obtain ⟨below, hbelow⟩ : ∃ b, b = 4 * m * left / right := ⟨_, rfl⟩
  have atMost : below * right ≤ 4 * m * left := hbelow ▸ Nat.div_mul_le_self _ _
  have above : 4 * m * left < (below + 1) * right := by
    rw [← Nat.div_lt_iff_lt_mul rightPos, ← hbelow]
    exact Nat.lt_succ_self below
  have atMost' : (below : ℚ) * (right / left) ≤ 4 * m := by
    rw [← mul_div_assoc, div_le_iff₀ leftPos']
    exact_mod_cast atMost
  have above' : (4 * m : ℚ) < (below + 1) * (right / left) := by
    rw [← mul_div_assoc, lt_div_iff₀ leftPos']
    exact_mod_cast above
  refine misfit ((Interval.contains_iff _ leftPos).2 ?_)
  rw [← hbelow, Nat.cast_mul, mul_div_assoc, Nat.cast_add_one]
  refine Interval.holds_of_lt ?_ ?_
  · refine lt_of_le_of_lt ?_ above'
    have : (Interval.ofSignificand m e).lower ≤ 4 * m := by
      rw [Interval.ofSignificand]
      split <;> exact Nat.sub_le _ _
    exact_mod_cast this
  · have : ((Interval.ofSignificand m e).upper : ℚ) = 4 * m + 2 := by simp [Interval.ofSignificand]
    linarith

/-! ## The search -/

/-- The search goes as far as a grid that is fine enough. -/
theorem search_holds (fuel : ℕ) (fine : 2 * (10 : ℚ) ^ (power - fuel) < 2 ^ e) :
    power - fuel ≤ (search m e fuel power).power ∧ (Interval.ofSignificand m e).Holds
      (4 * ((search m e fuel power).digits * 10 ^ (search m e fuel power).power / 2 ^ e)) := by
  induction fuel generalizing power with
  | zero =>
    rw [Nat.cast_zero, sub_zero] at fine ⊢
    obtain ⟨d, hd⟩ := exists_onGrid? (m := m) fine
    simp only [search, hd, Option.getD_some]
    exact ⟨le_rfl, holds_of_onGrid? hd⟩
  | succ fuel ih =>
    rw [search]
    split
    next d hd =>
      refine ⟨?_, holds_of_onGrid? hd⟩
      show power - (fuel + 1 : ℕ) ≤ power
      omega
    next =>
      rw [show power - (fuel + 1 : ℕ) = power - 1 - fuel by push_cast; ring] at fine ⊢
      exact ih fine

/-- A decimal in the rounding interval of a number has few digits on a grid that is not much finer
than the number. -/
theorem bitLength_le_of_holds {digits : ℕ} (hm : 0 < m)
    (holds : (Interval.ofSignificand m e).Holds (4 * (digits * 10 ^ power / 2 ^ e)))
    (grid : (2 : ℚ) ^ (Binary64.bitLength m + e - 1) ≤ 10 ^ power * 10 ^ 24) :
    Binary64.bitLength digits ≤ 100 := by
  obtain ⟨-, upper, -⟩ := holds.within_half hm
  have value : (digits : ℚ) * 10 ^ power / 2 ^ e < 2 ^ Binary64.bitLength m := by
    have : (m : ℚ) + 1 ≤ 2 ^ Binary64.bitLength m := by
      exact_mod_cast Binary64.lt_two_pow_bitLength m
    linarith
  have few : (digits : ℚ) < 2 * 10 ^ 24 := by
    rw [div_lt_iff₀ (by positivity), ← zpow_natCast, ← zpow_add₀ two_ne_zero] at value
    have double : (2 : ℚ) ^ (Binary64.bitLength m + e) =
        2 * 2 ^ (Binary64.bitLength m + e - 1) := by
      rw [zpow_sub_one₀ two_ne_zero]
      ring
    rw [double] at value
    have : (digits : ℚ) * 10 ^ power < 2 * 10 ^ 24 * 10 ^ power := by linarith
    exact lt_of_mul_lt_mul_right this (by positivity)
  have few' : digits < 2 * 10 ^ 24 := by exact_mod_cast few
  exact Binary64.bitLength_le_iff.2 (few'.trans (by norm_num))

/-- The shortest decimal of a number lies in its rounding interval, and has few digits. -/
theorem digits_holds (hm : 0 < m) (short : m < 2 ^ 53) (least : -1074 ≤ e) (greatest : e ≤ 971) :
    (Interval.ofSignificand m e).Holds
        (4 * ((digits m e).digits * 10 ^ (digits m e).power / 2 ^ e)) ∧
      Binary64.bitLength (digits m e).digits ≤ 100 := by
  have atMost : Binary64.bitLength m ≤ 53 := Binary64.bitLength_le_iff.2 short
  obtain ⟨start, hstart⟩ :
      ∃ s : ℤ, s = ((Binary64.bitLength m : ℤ) + e) * 30103 / 100000 + 1 := ⟨_, rfl⟩
  have hdigits : digits m e = search m e 24 start := by rw [digits, ← hstart]
  have startLower : (2 : ℚ) ^ (Binary64.bitLength m + e - 1) ≤ 10 ^ start :=
    Binary64.two_zpow_le_ten_zpow (by omega) (by omega) (by omega)
  have startUpper : (10 : ℚ) ^ (start - 1) ≤ 2 ^ (Binary64.bitLength m + e + 1) :=
    Binary64.ten_zpow_le_two_zpow (by omega) (by omega) (by omega)
  have fine : 2 * (10 : ℚ) ^ (start - (24 : ℕ)) < 2 ^ e :=
    calc 2 * (10 : ℚ) ^ (start - (24 : ℕ)) = 2 * 10 ^ (start - 1) / 10 ^ 23 := by
          rw [show start - (24 : ℕ) = start - 1 - (23 : ℕ) by push_cast; ring,
            zpow_sub₀ (by norm_num) _ ((23 : ℕ) : ℤ), zpow_natCast]
          ring
      _ ≤ 2 * 2 ^ (54 + e) / 10 ^ 23 := by
        gcongr
        exact startUpper.trans (zpow_le_zpow_right₀ one_le_two (by omega))
      _ = 2 ^ 55 / 10 ^ 23 * 2 ^ e := by
        rw [zpow_add₀ two_ne_zero]
        norm_num
        ring
      _ < 1 * 2 ^ e := by
        gcongr
        norm_num
      _ = 2 ^ e := one_mul _
  obtain ⟨far, holds⟩ := search_holds (m := m) 24 fine
  rw [hdigits]
  refine ⟨holds, bitLength_le_of_holds hm holds ?_⟩
  calc (2 : ℚ) ^ (Binary64.bitLength m + e - 1) ≤ 10 ^ start := startLower
    _ = 10 ^ (start - (24 : ℕ)) * 10 ^ 24 := by
      rw [← zpow_natCast, ← zpow_add₀ (by norm_num), sub_add_cancel]
    _ ≤ 10 ^ (search m e 24 start).power * 10 ^ 24 := by
      gcongr
      norm_num

end

end RouteSchema.Shortest
