import ShaderKnobs.Proofs.Number.Whole

set_option autoImplicit false

namespace ShaderKnobs.Number

variable {f : Format}

def Format.nearest (f : Format) (q : ℚ) : ℚ := if q < 0 then -f.round (-q) else f.round q

theorem clamp_bounds (low high n : Int) (order : low ≤ high) : clamp low high n = max low (min high n) := by
  rw [clamp]
  split_ifs <;> omega

theorem Finite.value_of_signed (x : Finite f) (k : Int) (whole : x.signed = k) : x.value = k.natAbs := by
  rw [x.value_signed, whole, Nat.cast_natAbs, Int.cast_abs]

theorem Finite.signed_of (x : Finite f) (below : Prop) [Decidable below] (sign : x.negative = decide below) :
    x.signed = if below then -x.value else x.value := by
  rw [signed, sign]
  simp only [decide_eq_true_eq]

theorem Format.nearest_magnitude (f : Format) (q : ℚ) : f.nearest q = if q < 0 then -f.round |q| else f.round |q| := by
  by_cases negative : q < 0
  · rw [nearest, if_pos negative, if_pos negative, abs_of_neg negative]
  · rw [nearest, if_neg negative, if_neg negative, abs_of_nonneg (not_lt.mp negative)]

theorem Finite.floor_int (x : Finite f) : x.floorInt = ⌊x.signed⌋ := by
  have magnitude : x.value = (x.ratio.num : ℚ) / x.ratio.den := x.ratio_value.symm
  simp only [floorInt]
  rw [Int.fdiv_eq_ediv_of_nonneg _ (Int.natCast_nonneg _), ← Rat.floor_intCast_div_natCast, signed, magnitude]
  by_cases negative : x.negative = true
  · rw [if_pos negative, if_pos negative]
    push_cast
    rw [neg_div]
  · rw [if_neg negative, if_neg negative]
    push_cast
    rfl

theorem Finite.to_int64 (x : Finite f) (k : Int) (whole : x.signed = k) :
    (Binary.finite x).toInt64 = Int64.ofInt (clamp (-2 ^ 63) (2 ^ 63 - 1) k) := by
  have magnitude : x.ratio.num / x.ratio.den = k.natAbs := by
    rw [← Ratio.floor_value, x.ratio_value, x.value_of_signed k whole, Nat.floor_natCast]
  have sign : (if x.negative = true then -(k.natAbs : Int) else k.natAbs) = k := by
    have natural := x.value_nonneg
    rw [signed] at whole
    by_cases negative : x.negative = true
    · rw [if_pos negative] at whole ⊢
      have below : (k : ℚ) ≤ 0 := by linarith
      have below' : k ≤ 0 := by exact_mod_cast below
      omega
    · rw [if_neg negative] at whole ⊢
      have above : (0 : ℚ) ≤ k := by linarith
      have above' : 0 ≤ k := by exact_mod_cast above
      omega
  simp only [Binary.toInt64]
  rw [magnitude, sign]

section

variable (proper : f.Proper)

include proper

theorem of_value_nearest (q : ℚ) (room : |q| < f.limit) :
    ∃ y : Finite f, Binary.ofValue f (decide (q < 0)) |q| = .finite y ∧ y.signed = f.nearest q := by
  obtain ⟨y, rounded, sign, value⟩ := of_value_rounds proper (decide (q < 0)) |q| (abs_nonneg q) room
  refine ⟨y, rounded, ?_⟩
  rw [y.signed_of (q < 0) sign, value, f.nearest_magnitude]

theorem of_int_nearest (n : Int) (room : (n.natAbs : ℚ) < f.limit) :
    ∃ x : Finite f, Binary.ofInt f n = .finite x ∧ x.negative = decide (n < 0) ∧ x.value = f.round n.natAbs ∧
      x.signed = f.nearest n := by
  obtain ⟨x, rounded, sign, value⟩ := of_int_rounds proper n room
  refine ⟨x, rounded, sign, value, ?_⟩
  rw [x.signed_of (n < 0) sign, value, f.nearest_magnitude, Nat.cast_natAbs, Int.cast_abs]
  simp only [Int.cast_lt_zero]

theorem Finite.plus_half (x : Finite f) (room : |x.signed + 1 / 2| < f.limit) :
    ∃ y : Finite f, (Binary.finite x).plusHalf = .finite y ∧ y.signed = f.nearest (x.signed + 1 / 2) := by
  have den : (0 : ℚ) < x.ratio.den := Nat.cast_pos.mpr x.ratio_den
  have magnitude : x.value = (x.ratio.num : ℚ) / x.ratio.den := x.ratio_value.symm
  let sum : Int := (if x.negative then -(2 * x.ratio.num : Int) else 2 * x.ratio.num) + x.ratio.den
  have quotient : x.signed + 1 / 2 = (sum : ℚ) / (2 * x.ratio.den) := by
    simp only [sum]
    rw [signed, magnitude]
    split <;> push_cast <;> field_simp
  have sign : sum < 0 ↔ x.signed + 1 / 2 < 0 := by
    rw [quotient, div_lt_iff₀ (mul_pos two_pos den), zero_mul, Int.cast_lt_zero]
  have value : Ratio.value ⟨sum.natAbs, 2 * x.ratio.den⟩ = |x.signed + 1 / 2| := by
    rw [quotient, abs_div, abs_of_pos (mul_pos two_pos den), ← Int.cast_abs, ← Nat.cast_natAbs, Ratio.value, Nat.cast_mul,
      Nat.cast_ofNat]
  have halved : (Binary.finite x).plusHalf = Binary.ofRatio f (decide (sum < 0)) ⟨sum.natAbs, 2 * x.ratio.den⟩ := rfl
  rw [halved, of_ratio_value f _ _ (Nat.mul_pos two_pos x.ratio_den), decide_eq_decide.mpr sign, value]
  exact of_value_nearest proper _ room

theorem Finite.round_le (v : Finite f) (q : ℚ) (natural : 0 ≤ q) (below : q ≤ v.value) : f.round q ≤ v.value := by
  rcases natural.eq_or_lt with rfl | positive
  · rw [f.round_zero]
    exact v.value_nonneg
  · obtain ⟨y, rounded, _, value⟩ :=
      of_value_rounds proper false q natural (below.trans_lt (v.value_lt_limit proper))
    rw [← value]
    exact Finite.rounds_below proper v y false q positive rounded below

theorem Format.round_half (whole : f.minExponent ≤ 0) (m : ℕ) (full : 2 ^ (f.precision - 1) ≤ m)
    (bits : m < 2 ^ f.precision) : f.round (m + 1 / 2) = if m % 2 = 0 then (m : ℚ) else m + 1 := by
  have low : (2 : ℚ) ^ (f.precision - 1) ≤ m := by exact_mod_cast full
  have high : (m : ℚ) + 1 ≤ 2 ^ f.precision := by exact_mod_cast bits
  rw [f.round_at proper _ 0 whole, zpow_zero, mul_one, neg_zero, zpow_zero, mul_one, half_even_tie]
  · split <;> push_cast <;> rfl
  · rw [zpow_zero, mul_one]
    linarith
  · rw [zpow_zero, mul_one]
    linarith

omit proper in
theorem Format.round_half_exact (half : f.minExponent ≤ -1) (m : ℕ) (bits : 2 * m + 1 < 2 ^ f.precision) :
    f.round (m + 1 / 2) = m + 1 / 2 := by
  have multiple := f.round_multiple (2 * m + 1) (-1) half bits
  have sum : ((2 * m + 1 : ℕ) : ℚ) * 2 ^ (-1 : Int) = m + 1 / 2 := by
    push_cast
    rw [zpow_neg_one]
    ring
  rwa [sum] at multiple

theorem Format.round_below_power (e : Int) (least : f.minExponent ≤ e) (whole : 0 ≤ e) (d : ℚ) (back : -(1 / 2) ≤ d)
    (below : d < 0) : f.round (2 ^ f.precision * 2 ^ e + d) = 2 ^ f.precision * 2 ^ e := by
  have unit : (1 : ℚ) ≤ 2 ^ e := one_le_zpow₀ one_le_two whole
  have positive : (0 : ℚ) < 2 ^ e := by linarith
  have one : (1 : ℚ) ≤ 2 ^ (f.precision - 1) := one_le_pow₀ one_le_two
  have twice := f.power_twice proper
  have scaled : (2 ^ f.precision * 2 ^ e + d) * 2 ^ (-e) = 2 ^ f.precision + d * 2 ^ (-e) := by
    rw [add_mul, zpow_neg, mul_inv_cancel_right₀ positive.ne']
  have part : -(1 / 2) ≤ d * 2 ^ (-e) := by
    rw [zpow_neg, ← div_eq_mul_inv, le_div_iff₀ positive]
    linarith
  have part' : d * 2 ^ (-e) < 0 := mul_neg_of_neg_of_pos below (zpow_pos two_pos _)
  have even : 2 ^ f.precision % 2 = 0 := Nat.mod_eq_zero_of_dvd (dvd_pow_self 2 proper.bits.ne')
  have reached : halfEven (2 ^ f.precision + d * 2 ^ (-e)) = 2 ^ f.precision := by
    apply (half_even_reaches _ (2 ^ f.precision) (Nat.two_pow_pos _) even ?_ ?_).mpr
    · push_cast
      linarith
    · linarith
    · push_cast
      linarith
  rw [f.round_at proper _ e least, scaled, reached]
  · push_cast
    rfl
  · rw [twice]
    have product := mul_le_mul one unit zero_le_one (by linarith)
    linarith
  · linarith

omit proper in
theorem Finite.wide_step (whole : f.minExponent ≤ 0) (v : Finite f) (large : 2 ^ f.precision ≤ v.value) :
    1 ≤ v.exponent ∧ 2 ^ (f.precision - 1) ≤ v.mantissa := by
  have bits : (v.mantissa : ℚ) < 2 ^ f.precision := by exact_mod_cast v.canonical.1
  have wide : 1 ≤ v.exponent := by
    by_contra small
    have unit : (2 : ℚ) ^ v.exponent ≤ 1 := zpow_le_one_of_nonpos₀ one_le_two (by omega)
    have below : v.value ≤ v.mantissa * 1 := mul_le_mul_of_nonneg_left unit (Nat.cast_nonneg _)
    linarith
  refine ⟨wide, ?_⟩
  rcases v.canonical.2.2.2 with full | least
  · exact full
  · omega

theorem Finite.round_beside (whole : f.minExponent ≤ 0) (v : Finite f) (large : 2 ^ f.precision ≤ v.value) (d : ℚ)
    (near : |d| ≤ 1 / 2) : f.round (v.value + d) = v.value := by
  obtain ⟨back, forth⟩ := abs_le.mp near
  obtain ⟨wide, full⟩ := v.wide_step whole large
  have full' : (2 : ℚ) ^ (f.precision - 1) ≤ v.mantissa := by exact_mod_cast full
  have bits : (v.mantissa : ℚ) + 1 ≤ 2 ^ f.precision := by exact_mod_cast v.canonical.1
  have step : (2 : ℚ) ≤ 2 ^ v.exponent := by
    have power := zpow_le_zpow_right₀ (one_le_two (α := ℚ)) wide
    rwa [zpow_one] at power
  have unit : (0 : ℚ) < 2 ^ v.exponent := by linarith
  by_cases low : 2 ^ (f.precision - 1) * 2 ^ v.exponent ≤ v.value + d
  · have high : v.value + d ≤ 2 ^ f.precision * 2 ^ v.exponent := by
      have next := mul_le_mul_of_nonneg_right bits unit.le
      rw [add_mul] at next
      rw [value]
      linarith
    have scaled : (v.value + d) * 2 ^ (-v.exponent) = v.mantissa + d * 2 ^ (-v.exponent) := by
      rw [value, add_mul, zpow_neg, mul_inv_cancel_right₀ unit.ne']
    have small : |d * 2 ^ (-v.exponent)| < 1 / 2 := by
      rw [abs_mul, zpow_neg, abs_of_pos (inv_pos.mpr unit), ← div_eq_mul_inv, div_lt_iff₀ unit]
      linarith
    have natural : 0 ≤ (v.mantissa : ℚ) + d * 2 ^ (-v.exponent) := by
      have one : (1 : ℚ) ≤ 2 ^ (f.precision - 1) := one_le_pow₀ one_le_two
      have least := (abs_lt.mp small).1
      linarith
    rw [f.round_at proper _ v.exponent (by omega) low high, scaled, half_even_near _ v.mantissa natural]
    · rfl
    · rwa [add_sub_cancel_left]
  · -- Only below a power of two does one half reach under the full mantissas.
    have least : v.mantissa = 2 ^ (f.precision - 1) := by
      have few : (v.mantissa : ℚ) < 2 ^ (f.precision - 1) + 1 := by
        rw [value] at low
        by_contra more
        have next := mul_le_mul_of_nonneg_right (not_lt.mp more) unit.le
        linarith
      have few' : v.mantissa < 2 ^ (f.precision - 1) + 1 := by exact_mod_cast few
      omega
    have power : v.value = 2 ^ f.precision * 2 ^ (v.exponent - 1) := by
      rw [value, least, f.power_twice proper, zpow_sub_one₀ two_ne_zero]
      push_cast
      ring
    have below : d < 0 := by
      rw [value, least] at low
      push_cast at low
      linarith
    rw [power]
    exact f.round_below_power proper _ (by omega) (by omega) d back below

omit proper in
theorem Format.nearest_kept (k : Int) (kept : f.round k.natAbs = k.natAbs) : f.nearest k = k := by
  rw [Nat.cast_natAbs, Int.cast_abs] at kept
  rw [nearest]
  by_cases negative : (k : ℚ) < 0
  · rw [abs_of_neg negative] at kept
    rw [if_pos negative, kept, neg_neg]
  · rw [abs_of_nonneg (not_lt.mp negative)] at kept
    rw [if_neg negative, kept]

theorem Format.nearest_bits (whole : f.minExponent ≤ 0) (k : Int) (few : k.natAbs ≤ 2 ^ f.precision) :
    f.nearest k = k := f.nearest_kept k (f.round_bits proper whole k.natAbs few)

theorem Finite.nearest_signed (v : Finite f) : f.nearest v.signed = v.signed := by
  have kept := v.round_value proper
  have natural := v.value_nonneg
  rw [Format.nearest, signed]
  by_cases negative : v.negative = true
  · rw [if_pos negative]
    by_cases zero : v.value = 0
    · rw [zero, neg_zero, if_neg (lt_irrefl _), f.round_zero]
    · have positive : 0 < v.value := lt_of_le_of_ne natural (Ne.symm zero)
      rw [if_pos (neg_lt_zero.mpr positive), neg_neg, kept]
  · rw [if_neg negative, if_neg (not_lt.mpr natural), kept]

theorem Finite.nearest_beside (whole : f.minExponent ≤ 0) (v : Finite f) (large : 2 ^ f.precision ≤ v.value) :
    f.nearest (v.signed + 1 / 2) = v.signed := by
  have one : (1 : ℚ) ≤ 2 ^ f.precision := one_le_pow₀ one_le_two
  rw [Format.nearest, signed]
  by_cases negative : v.negative = true
  · have below : -v.value + 1 / 2 < 0 := by linarith
    have turned : -(-v.value + 1 / 2) = v.value + -(1 / 2) := by ring
    rw [if_pos negative, if_pos below, turned, v.round_beside proper whole large _ (by norm_num)]
  · have above : ¬v.value + 1 / 2 < 0 := by linarith
    rw [if_neg negative, if_neg above, v.round_beside proper whole large _ (by norm_num)]

theorem Format.nearest_half (bits : 2 ≤ f.precision) (half : f.minExponent ≤ -1) (k : Int)
    (few : k.natAbs < 2 ^ f.precision) :
    ⌊f.nearest (k + 1 / 2)⌋ = if k.natAbs ≤ 2 ^ (f.precision - 1) then k else k + k % 2 := by
  have even : 2 ^ (f.precision - 1) % 2 = 0 := Nat.mod_eq_zero_of_dvd (dvd_pow_self 2 (by omega))
  have twice : 2 ^ f.precision = 2 * 2 ^ (f.precision - 1) := by
    rw [← pow_succ', Nat.sub_add_cancel proper.bits]
  have exact_ : ∀ m : ℕ, m < 2 ^ (f.precision - 1) → f.round (m + 1 / 2) = m + 1 / 2 := fun m small =>
    f.round_half_exact half m (by omega)
  have tie : ∀ m : ℕ, 2 ^ (f.precision - 1) ≤ m → m < 2 ^ f.precision →
      f.round (m + 1 / 2) = if m % 2 = 0 then (m : ℚ) else m + 1 := f.round_half proper (by omega)
  cases k with
  | ofNat m =>
      have own : ((Int.ofNat m : Int) : ℚ) = m := Int.cast_natCast m
      have natural : ¬(m : ℚ) + 1 / 2 < 0 := not_lt.mpr (by positivity)
      rw [own, nearest, if_neg natural]
      simp only [Int.ofNat_eq_natCast, Int.natAbs_natCast] at few ⊢
      by_cases small : m < 2 ^ (f.precision - 1)
      · rw [exact_ m small, if_pos small.le, Int.floor_eq_iff]
        constructor <;> push_cast <;> linarith
      · have fills := tie m (not_lt.mp small) few
        by_cases parity : m % 2 = 0
        · rw [if_pos parity] at fills
          rw [fills, Int.floor_natCast]
          split <;> omega
        · rw [if_neg parity, ← Nat.cast_succ] at fills
          rw [fills, Int.floor_natCast, if_neg (by omega)]
          omega
  | negSucc m =>
      have own : ((Int.negSucc m : Int) : ℚ) + 1 / 2 = -(m + 1 / 2) := by
        rw [Int.cast_negSucc]
        push_cast
        ring
      have below : -((m : ℚ) + 1 / 2) < 0 := neg_lt_zero.mpr (by positivity)
      rw [own, nearest, if_pos below, neg_neg]
      rw [Int.natAbs_negSucc] at few ⊢
      by_cases small : m < 2 ^ (f.precision - 1)
      · rw [exact_ m small, if_pos (Nat.succ_le_of_lt small), Int.floor_eq_iff, Int.cast_negSucc]
        push_cast
        constructor <;> linarith
      · have fills := tie m (not_lt.mp small) (by omega)
        rw [if_neg (by omega)]
        by_cases parity : m % 2 = 0
        · rw [if_pos parity] at fills
          rw [fills, ← Int.cast_natCast, ← Int.cast_neg, Int.floor_intCast]
          omega
        · rw [if_neg parity, ← Nat.cast_succ] at fills
          rw [fills, ← Int.cast_natCast, ← Int.cast_neg, Int.floor_intCast]
          omega

end

end ShaderKnobs.Number
