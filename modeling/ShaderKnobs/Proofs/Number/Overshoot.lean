import ShaderKnobs.Proofs.Number.HalfUp

set_option autoImplicit false

namespace ShaderKnobs.Number

variable {f : Format}

def Format.beforeHalf (f : Format) : ℚ := 1 / 2 - 2 ^ (-(f.precision + 1 : Int))

-- The values that are rounded to one integer more than the nearest one.
def Format.Overshoots (f : Format) (q : ℚ) : Prop :=
  q = f.beforeHalf ∨ ∃ k : Int, q = k ∧ k % 2 = 1 ∧ 2 ^ (f.precision - 1) < k.natAbs ∧ k.natAbs < 2 ^ f.precision

-- The integer that a value is rounded to: the greatest one not above its sum with one half, or the next.
def Format.HalfUp (f : Format) (q : ℚ) (k : Int) : Prop :=
  f.Overshoots q ∧ k = ⌊q + 1 / 2⌋ + 1 ∨ ¬f.Overshoots q ∧ k = ⌊q + 1 / 2⌋

theorem Format.step_before_one (f : Format) : (2 : ℚ) ^ f.precision * 2 ^ (-f.precision : Int) = 1 := by
  rw [← zpow_natCast, ← zpow_add₀ two_ne_zero, add_neg_cancel, zpow_zero]

theorem Format.steps_double (f : Format) : (2 : ℚ) ^ (-f.precision : Int) = 2 * 2 ^ (-(f.precision + 1 : Int)) := by
  rw [← zpow_one_add₀ two_ne_zero]
  congr 1
  omega

theorem Format.step_before_half (f : Format) : (2 : ℚ) ^ f.precision * (2 * 2 ^ (-(f.precision + 1 : Int))) = 1 := by
  rw [← steps_double, step_before_one]

theorem Format.last_mantissa (f : Format) : ((2 ^ f.precision - 1 : ℕ) : ℚ) = 2 ^ f.precision - 1 := by
  rw [Nat.cast_sub Nat.one_le_two_pow]
  push_cast
  rfl

theorem Format.before_half_bounds (proper : f.Proper) : 0 < f.beforeHalf ∧ f.beforeHalf < 1 / 2 := by
  have step := f.step_before_half
  have unit : (0 : ℚ) < 2 ^ (-(f.precision + 1 : Int)) := zpow_pos two_pos _
  have two : (2 : ℚ) ≤ 2 ^ f.precision := by
    have power := pow_le_pow_right₀ (one_le_two (α := ℚ)) proper.bits
    rwa [pow_one] at power
  have product := mul_le_mul_of_nonneg_right two (mul_pos two_pos unit).le
  rw [beforeHalf]
  constructor <;> linarith

theorem Format.overshoots_small (f : Format) (q : ℚ) (small : |q| < 1 / 2) : f.Overshoots q ↔ q = f.beforeHalf := by
  constructor
  · rintro (last | ⟨k, rfl, _, large, _⟩)
    · exact last
    · rw [← Int.cast_abs, ← Nat.cast_natAbs] at small
      have some_ : (1 : ℚ) ≤ k.natAbs := by exact_mod_cast (Nat.one_le_two_pow.trans large.le)
      linarith
  · exact .inl

theorem Format.before_half_fraction (proper : f.Proper) (k : Int) : (k : ℚ) ≠ f.beforeHalf := by
  intro last
  obtain ⟨low, high⟩ := f.before_half_bounds proper
  have above : (0 : ℚ) < k := by linarith
  have below : (k : ℚ) < 1 := by linarith
  have above' : 0 < k := by exact_mod_cast above
  have below' : k < 1 := by exact_mod_cast below
  omega

theorem Format.overshoots_integer (proper : f.Proper) (k : Int) :
    f.Overshoots k ↔ k % 2 = 1 ∧ 2 ^ (f.precision - 1) < k.natAbs ∧ k.natAbs < 2 ^ f.precision := by
  constructor
  · rintro (last | ⟨k', same, odd⟩)
    · exact absurd last (f.before_half_fraction proper k)
    · obtain rfl : k = k' := by exact_mod_cast same
      exact odd
  · exact fun odd => .inr ⟨k, rfl, odd⟩

theorem Format.no_overshoot (proper : f.Proper) (q : ℚ) (large : 1 / 2 ≤ |q|) (few : |q| < 2 ^ (f.precision - 1)) :
    ¬f.Overshoots q := by
  rintro (last | ⟨k, same, _, more, _⟩)
  · obtain ⟨low, high⟩ := f.before_half_bounds proper
    rw [last, abs_of_pos low] at large
    linarith
  · rw [same, ← Int.cast_abs, ← Nat.cast_natAbs] at few
    have fewer : k.natAbs < 2 ^ (f.precision - 1) := by exact_mod_cast few
    omega

theorem Finite.signed_multiple (x : Finite f) : ∃ m : Int, m.natAbs = x.mantissa ∧ x.signed = m * 2 ^ x.exponent := by
  rw [signed, value]
  by_cases negative : x.negative = true
  · refine ⟨-x.mantissa, Int.natAbs_neg _, ?_⟩
    rw [if_pos negative]
    push_cast
    ring
  · refine ⟨x.mantissa, rfl, ?_⟩
    rw [if_neg negative]
    push_cast
    rfl

theorem Finite.whole_signed (x : Finite f) (whole : 0 ≤ x.exponent) : ∃ k : Int, x.signed = k := by
  obtain ⟨m, _, multiple⟩ := x.signed_multiple
  obtain ⟨n, exponent⟩ := Int.eq_ofNat_of_zero_le whole
  refine ⟨m * 2 ^ n, ?_⟩
  rw [multiple, exponent, zpow_natCast]
  push_cast
  rfl

theorem Format.nearest_multiple (k e : Int) (least : f.minExponent ≤ e) (few : k.natAbs < 2 ^ f.precision) :
    f.nearest (k * 2 ^ e) = k * 2 ^ e := by
  have unit : (0 : ℚ) < 2 ^ e := zpow_pos two_pos _
  have kept := f.round_multiple k.natAbs e least few
  rw [Nat.cast_natAbs, Int.cast_abs] at kept
  rw [f.nearest_magnitude, abs_mul, abs_of_pos unit, kept]
  by_cases negative : (k : ℚ) * 2 ^ e < 0
  · have below : (k : ℚ) < 0 := by
      by_contra above
      exact absurd negative (not_lt.mpr (mul_nonneg (not_lt.mp above) unit.le))
    rw [if_pos negative, abs_of_neg below]
    ring
  · have above : (0 : ℚ) ≤ k := by
      by_contra below
      exact negative (mul_neg_of_neg_of_pos (not_le.mp below) unit)
    rw [if_neg negative, abs_of_nonneg above]

section

variable (proper : f.Proper)

include proper

theorem Finite.below_bits (x : Finite f) (fraction : x.exponent < 0) : x.value < 2 ^ (f.precision - 1) := by
  have below := x.below_full proper 0 fraction
  rwa [zpow_zero, mul_one] at below

theorem Format.half_lt_limit (room : 0 ≤ f.maxExponent) : 2 ^ (f.precision - 1) < f.limit := by
  have one : (1 : ℚ) ≤ 2 ^ (f.precision - 1) := one_le_pow₀ one_le_two
  have twice := f.power_twice proper
  have unit : (1 : ℚ) ≤ 2 ^ f.maxExponent := one_le_zpow₀ one_le_two room
  have less : (0 : ℚ) ≤ 2 ^ f.precision - 1 / 2 := by linarith
  have product := mul_le_mul_of_nonneg_left unit less
  rw [limit]
  linarith

theorem Finite.sum_room (room : 1 ≤ f.maxExponent) (x : Finite f) : |x.signed + 1 / 2| < f.limit := by
  have full : 2 ^ (f.precision - 1) ≤ 2 ^ f.precision - 1 := Nat.le_sub_one_of_lt (f.full_lt proper)
  have two : (2 : ℚ) ≤ 2 ^ f.maxExponent := by
    have power := zpow_le_zpow_right₀ (one_le_two (α := ℚ)) room
    rwa [zpow_one] at power
  have under := x.value_lt_limit proper
  have most := x.before proper (2 ^ f.precision - 1) f.maxExponent full (by
    rw [f.last_mantissa, sub_add_cancel]
    rw [Format.limit, sub_mul] at under
    linarith)
  rw [f.last_mantissa] at most
  have sum := abs_add_le x.signed (1 / 2)
  rw [← x.value_signed, abs_of_pos (one_half_pos (α := ℚ))] at sum
  rw [Format.limit]
  linarith

theorem Finite.floor_few (x : Finite f) (fraction : x.exponent < 0) : ⌊x.signed⌋.natAbs ≤ 2 ^ (f.precision - 1) := by
  have below := x.below_bits proper fraction
  rw [x.value_signed] at below
  obtain ⟨low, high⟩ := abs_lt.mp below
  have least : -(2 : Int) ^ (f.precision - 1) ≤ ⌊x.signed⌋ := Int.le_floor.mpr (by push_cast; exact low.le)
  have most : ⌊x.signed⌋ < (2 : Int) ^ (f.precision - 1) := Int.floor_lt.mpr (by push_cast; exact high)
  zify
  exact abs_le.mpr ⟨least, most.le⟩

theorem Finite.floor_signed (whole : f.minExponent ≤ 0) (room : 0 ≤ f.maxExponent) (x : Finite f) :
    ∃ y : Finite f, (Binary.finite x).floor = .finite y ∧ y.signed = ⌊x.signed⌋ := by
  by_cases zero : x.mantissa = 0
  · refine ⟨x, by rw [Binary.floor, if_pos zero], ?_⟩
    rw [signed, value, zero, Nat.cast_zero, zero_mul, neg_zero, ite_self, Int.floor_zero, Int.cast_zero]
  have kept : f.nearest ⌊x.signed⌋ = ⌊x.signed⌋ ∧ (⌊x.signed⌋.natAbs : ℚ) < f.limit := by
    by_cases fraction : x.exponent < 0
    · have few := x.floor_few proper fraction
      have few' : (⌊x.signed⌋.natAbs : ℚ) ≤ 2 ^ (f.precision - 1) := by exact_mod_cast few
      exact ⟨f.nearest_bits proper whole _ (few.trans (f.full_lt proper).le), few'.trans_lt (f.half_lt_limit proper room)⟩
    · obtain ⟨k, same⟩ := x.whole_signed (not_lt.mp fraction)
      have own := x.nearest_signed proper
      have below := x.value_lt_limit proper
      rw [x.value_of_signed k same] at below
      rw [same] at own ⊢
      rw [Int.floor_intCast]
      exact ⟨own, below⟩
  obtain ⟨y, rounded, _, _, nearest⟩ := of_int_nearest proper ⌊x.signed⌋ kept.2
  refine ⟨y, ?_, nearest.trans kept.1⟩
  rw [Binary.floor, if_neg zero, x.floor_int, rounded]

omit proper in
theorem floor_half (k : Int) : ⌊(k : ℚ) + 1 / 2⌋ = k := by
  rw [Int.floor_eq_iff]
  constructor <;> linarith

theorem Format.half_up_whole (n k : Int) : f.HalfUp n k ↔
    k = if n % 2 = 1 ∧ 2 ^ (f.precision - 1) < n.natAbs ∧ n.natAbs < 2 ^ f.precision then n + 1 else n := by
  rw [HalfUp, f.overshoots_integer proper, floor_half]
  split <;> omega

theorem Finite.sum_of_integer (bits : 2 ≤ f.precision) (half : f.minExponent ≤ -1) (x : Finite f) (k : Int)
    (same : x.signed = k) : f.HalfUp x.signed ⌊f.nearest (x.signed + 1 / 2)⌋ := by
  rw [same, f.half_up_whole proper]
  by_cases few : k.natAbs < 2 ^ f.precision
  · rw [f.nearest_half proper bits half k few]
    split_ifs <;> omega
  · have large : 2 ^ f.precision ≤ x.value := by
      rw [x.value_of_signed k same]
      exact_mod_cast not_lt.mp few
    have beside := x.nearest_beside proper (by omega) large
    rw [same] at beside
    rw [beside, Int.floor_intCast, if_neg (fun odd => few odd.2.2)]

theorem Format.round_before_one (fine : f.minExponent ≤ -f.precision) : f.round (f.beforeHalf + 1 / 2) = 1 := by
  have unit := f.step_before_one
  have step := f.step_before_half
  obtain ⟨low, high⟩ := f.before_half_bounds proper
  have odd : (2 ^ f.precision - 1) % 2 ≠ 0 := by
    have even : 2 ^ f.precision % 2 = 0 := Nat.mod_eq_zero_of_dvd (dvd_pow_self 2 proper.bits.ne')
    have one := Nat.one_le_two_pow (n := f.precision)
    omega
  have tie : (f.beforeHalf + 1 / 2) * 2 ^ (f.precision : Int) = (2 ^ f.precision - 1 : ℕ) + 1 / 2 := by
    rw [f.last_mantissa, zpow_natCast, beforeHalf]
    linarith
  rw [f.round_at proper _ (-f.precision) fine, neg_neg, tie, half_even_tie, if_neg odd,
    Nat.sub_add_cancel Nat.one_le_two_pow]
  · push_cast
    exact unit
  · rw [f.power_twice proper] at unit
    linarith
  · rw [unit]
    linarith

theorem Format.full_before_last (bits : 2 ≤ f.precision) :
    ∃ m : ℕ, 2 ^ (f.precision - 1) ≤ m ∧ 2 ^ f.precision = m + 2 ∧ (2 : ℚ) ^ f.precision = m + 2 := by
  have twice : 2 ^ f.precision = 2 * 2 ^ (f.precision - 1) := by exact_mod_cast f.power_twice proper
  have two : 2 ^ 1 ≤ 2 ^ (f.precision - 1) := Nat.pow_le_pow_right two_pos (Nat.le_sub_one_of_lt bits)
  obtain ⟨m, split⟩ := Nat.exists_eq_add_of_le' (show 2 ≤ 2 ^ f.precision by omega)
  exact ⟨m, by omega, split, by exact_mod_cast split⟩

theorem Finite.two_before_half (bits : 2 ≤ f.precision) (x : Finite f) (small : x.value < 1 / 2)
    (other : x.signed ≠ f.beforeHalf) : x.signed + 1 / 2 ≤ 1 - 2 ^ (-f.precision : Int) := by
  have step := f.step_before_half
  have unit : (0 : ℚ) < 2 ^ (-(f.precision + 1 : Int)) := zpow_pos two_pos _
  have natural := x.value_nonneg
  obtain ⟨m, full, _, split⟩ := f.full_before_last proper bits
  rw [f.steps_double]
  rw [split] at step
  by_cases negative : x.negative = true
  · have product : (0 : ℚ) ≤ m * 2 ^ (-(f.precision + 1 : Int)) := mul_nonneg (Nat.cast_nonneg m) unit.le
    rw [signed, if_pos negative]
    linarith
  · rw [signed, if_neg negative] at other ⊢
    have last : f.beforeHalf = (m + 1 : ℕ) * 2 ^ (-(f.precision + 1 : Int)) := by
      rw [Format.beforeHalf]
      push_cast
      linarith
    have most := x.before proper (m + 1) (-(f.precision + 1)) (by omega) (by push_cast; linarith)
    have less := lt_of_le_of_ne most (fun same => other (same.trans last.symm))
    have before := x.before proper m (-(f.precision + 1)) full (by exact_mod_cast less)
    linarith

theorem Format.round_under_one (bits : 2 ≤ f.precision) (fine : f.minExponent ≤ -f.precision) (room : 0 ≤ f.maxExponent)
    (q : ℚ) (natural : 0 ≤ q) (below : q ≤ 1 - 2 ^ (-f.precision : Int)) : 0 ≤ f.round q ∧ f.round q < 1 := by
  obtain ⟨m, full, split, split'⟩ := f.full_before_last proper bits
  have unit : (0 : ℚ) < 2 ^ (-f.precision : Int) := zpow_pos two_pos _
  have one := f.step_before_one
  let last : Finite f := ⟨false, m + 1, -f.precision, by omega, fine, by omega, .inl (by omega)⟩
  have value : last.value = 1 - 2 ^ (-f.precision : Int) := by
    simp only [last, Finite.value]
    push_cast
    rw [split'] at one
    linarith
  have reached := last.round_le proper q natural (by rwa [value])
  rw [value] at reached
  exact ⟨mul_nonneg (Nat.cast_nonneg _) (zpow_pos two_pos _).le, by linarith⟩

-- Below one half the sum is below one, and only the last such sum is rounded to one.
theorem Finite.sum_small (bits : 2 ≤ f.precision) (fine : f.minExponent ≤ -f.precision) (room : 0 ≤ f.maxExponent)
    (x : Finite f) (small : x.value < 1 / 2) : f.HalfUp x.signed ⌊f.nearest (x.signed + 1 / 2)⌋ := by
  have small' := small
  rw [x.value_signed] at small'
  obtain ⟨back, forth⟩ := abs_lt.mp small'
  have natural : 0 ≤ x.signed + 1 / 2 := by linarith
  have nothing : ⌊x.signed + 1 / 2⌋ = 0 := Int.floor_eq_zero_iff.mpr ⟨natural, by linarith⟩
  rw [Format.HalfUp, f.overshoots_small _ small', nothing, Format.nearest, if_neg (not_lt.mpr natural)]
  by_cases last : x.signed = f.beforeHalf
  · refine .inl ⟨last, ?_⟩
    rw [last, f.round_before_one proper fine, Int.floor_one, zero_add]
  · have before := x.two_before_half proper bits small last
    exact .inr ⟨last, Int.floor_eq_zero_iff.mpr (f.round_under_one proper bits fine room _ natural before)⟩

-- From a power of two to the next, rounding does not leave this range downwards and moves half a step at most.
theorem Format.round_half_step (q : ℚ) (e : Int) (least : f.minExponent ≤ e) (low : 2 ^ (f.precision - 1) * 2 ^ e ≤ q)
    (high : q ≤ 2 ^ f.precision * 2 ^ e) : 2 ^ (f.precision - 1) * 2 ^ e ≤ f.round q ∧ f.round q ≤ q + 1 / 2 * 2 ^ e := by
  have unit : (0 : ℚ) < 2 ^ e := zpow_pos two_pos _
  have own : q * 2 ^ (-e) * 2 ^ e = q := by rw [zpow_neg, inv_mul_cancel_right₀ unit.ne']
  have full : ((2 ^ (f.precision - 1) : ℕ) : ℚ) ≤ q * 2 ^ (-e) := by
    rw [zpow_neg, ← div_eq_mul_inv, le_div_iff₀ unit]
    push_cast
    exact low
  have reached : ((2 ^ (f.precision - 1) : ℕ) : ℚ) ≤ halfEven (q * 2 ^ (-e)) := by exact_mod_cast le_half_even _ _ full
  have error := (abs_le.mp (half_even_error (q * 2 ^ (-e)) (le_trans (Nat.cast_nonneg _) full))).2
  have above := mul_le_mul_of_nonneg_right reached unit.le
  have below := mul_le_mul_of_nonneg_right (sub_le_iff_le_add.mp error) unit.le
  rw [f.round_at proper q e least low high]
  push_cast at above
  rw [add_mul, own] at below
  exact ⟨above, by linarith⟩

omit proper in
theorem Format.power_above_half (f : Format) (e : Int) (large : (1 / 2 : ℚ) < 2 ^ f.precision * 2 ^ e) :
    ∃ j : ℕ, (2 : ℚ) ^ f.precision * 2 ^ e = (2 ^ j : Int) := by
  have small : (2 : ℚ) ^ (-1 : Int) < 2 ^ ((f.precision : Int) + e) := by
    rw [zpow_add₀ two_ne_zero, zpow_natCast, zpow_neg_one, ← one_div]
    exact large
  have exponent := (zpow_lt_zpow_iff_right₀ (one_lt_two (α := ℚ))).mp small
  obtain ⟨j, sum⟩ := Int.eq_ofNat_of_zero_le (show 0 ≤ (f.precision : Int) + e by omega)
  refine ⟨j, ?_⟩
  rw [← zpow_natCast, ← zpow_add₀ two_ne_zero, sum, zpow_natCast]
  push_cast
  rfl

theorem Finite.sum_past_power (x : Finite f) (fraction : x.exponent < 0) (large : 1 / 2 ≤ x.value)
    (passed : 2 ^ f.precision * 2 ^ x.exponent ≤ x.signed + 1 / 2) :
    ⌊f.nearest (x.signed + 1 / 2)⌋ = ⌊x.signed + 1 / 2⌋ := by
  have unit : (0 : ℚ) < 2 ^ x.exponent := zpow_pos two_pos _
  have bits : (x.mantissa : ℚ) < 2 ^ f.precision := by exact_mod_cast x.canonical.1
  have below : x.value < 2 ^ f.precision * 2 ^ x.exponent := mul_lt_mul_of_pos_right bits unit
  have most : x.signed ≤ x.value := x.value_signed ▸ le_abs_self x.signed
  obtain ⟨j, power⟩ := f.power_above_half x.exponent (large.trans_lt below)
  have fine : (2 : ℚ) ^ x.exponent ≤ 1 / 2 := by
    have step := power_doubled x.exponent 0 fraction
    rw [zpow_zero] at step
    linarith
  have next : (2 : ℚ) ^ (x.exponent + 1) = 2 * 2 ^ x.exponent := by rw [zpow_add_one₀ two_ne_zero, mul_comm]
  have twice := f.power_twice proper
  obtain ⟨reached, near⟩ := f.round_half_step proper (x.signed + 1 / 2) (x.exponent + 1)
    (x.canonical.2.1.trans (Int.le_add_one (Int.le_refl _)))
    (by rw [next]; rw [twice] at passed; linarith) (by rw [next]; linarith)
  rw [next] at reached near
  rw [twice] at power passed below
  -- The power is an integer here, and the step below it is one half at most.
  have natural : ¬x.signed + 1 / 2 < 0 := by
    have positive : (0 : ℚ) < (2 ^ j : Int) := by positivity
    linarith
  have here : ⌊x.signed + 1 / 2⌋ = 2 ^ j := Int.floor_eq_iff.mpr ⟨by linarith, by linarith⟩
  rw [Format.nearest, if_neg natural, here]
  exact Int.floor_eq_iff.mpr ⟨by linarith, by linarith⟩

-- From one half on, the sum of a number that has a fraction is exact or passes a power of two.
theorem Finite.sum_of_fraction (x : Finite f) (fraction : x.exponent < 0) (large : 1 / 2 ≤ x.value) :
    f.HalfUp x.signed ⌊f.nearest (x.signed + 1 / 2)⌋ := by
  have below := x.below_bits proper fraction
  refine .inr ⟨f.no_overshoot proper _ (x.value_signed ▸ large) (x.value_signed ▸ below), ?_⟩
  obtain ⟨m, mantissa, multiple⟩ := x.signed_multiple
  obtain ⟨n, gap⟩ := Int.eq_ofNat_of_zero_le (show 0 ≤ -1 - x.exponent by omega)
  have half : (1 / 2 : ℚ) = 2 ^ n * 2 ^ x.exponent := by
    rw [← zpow_natCast, ← zpow_add₀ two_ne_zero, ← gap, sub_add_cancel, zpow_neg_one, one_div]
  have sum : x.signed + 1 / 2 = (m + 2 ^ n : Int) * 2 ^ x.exponent := by
    rw [multiple, half]
    push_cast
    ring
  by_cases few : (m + 2 ^ n).natAbs < 2 ^ f.precision
  · rw [sum, f.nearest_multiple _ _ x.canonical.2.1 few]
  · apply x.sum_past_power proper fraction large
    have bits := x.canonical.1
    have power : (0 : Int) < 2 ^ n := by positivity
    have passed : ((2 ^ f.precision : ℕ) : Int) ≤ m + 2 ^ n := by omega
    have passed' : (2 : ℚ) ^ f.precision ≤ (m + 2 ^ n : Int) := by exact_mod_cast passed
    rw [sum]
    exact mul_le_mul_of_nonneg_right passed' (zpow_pos two_pos _).le

theorem Finite.sum_half_up (bits : 2 ≤ f.precision) (fine : f.minExponent ≤ -f.precision) (room : 0 ≤ f.maxExponent)
    (x : Finite f) : f.HalfUp x.signed ⌊f.nearest (x.signed + 1 / 2)⌋ := by
  by_cases small : x.value < 1 / 2
  · exact x.sum_small proper bits fine room small
  by_cases fraction : x.exponent < 0
  · exact x.sum_of_fraction proper fraction (not_lt.mp small)
  · obtain ⟨k, whole⟩ := x.whole_signed (not_lt.mp fraction)
    exact x.sum_of_integer proper bits (by omega) k whole

theorem Finite.round_half_up (bits : 2 ≤ f.precision) (fine : f.minExponent ≤ -f.precision) (room : 1 ≤ f.maxExponent)
    (x : Finite f) : ∃ (y : Finite f) (k : Int), (Binary.finite x).roundHalfUp = .finite y ∧ y.signed = k ∧
      f.HalfUp x.signed k := by
  obtain ⟨s, sum, rounded⟩ := x.plus_half proper (x.sum_room proper room)
  obtain ⟨y, floor, down⟩ := s.floor_signed proper (by omega) (by omega)
  refine ⟨y, ⌊s.signed⌋, ?_, down, ?_⟩
  · rw [Binary.roundHalfUp, sum, floor]
  · rw [rounded]
    exact x.sum_half_up proper bits fine (by omega)

end

end ShaderKnobs.Number
