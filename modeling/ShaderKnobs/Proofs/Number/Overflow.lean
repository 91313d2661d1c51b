import ShaderKnobs.Proofs.Number.Exact

set_option autoImplicit false

namespace ShaderKnobs.Number

variable {f : Format}

def Binary.isFinite : Binary f → Bool
  | .finite _ => true
  | _ => false

structure Format.Proper (f : Format) : Prop where
  bits : 0 < f.precision
  room : f.minExponent ≤ f.maxExponent

theorem double_proper : double.Proper := ⟨by decide, by decide⟩

theorem single_proper : single.Proper := ⟨by decide, by decide⟩

-- Half a step above the largest number: the least magnitude that is rounded to an infinity.
def Format.limit (f : Format) : ℚ := (2 ^ f.precision - 1 / 2) * 2 ^ f.maxExponent

def Format.exponentOf (f : Format) (q : ℚ) : Int := max f.minExponent (Int.log 2 q - (f.precision - 1 : Nat))

theorem power_doubled (e e' : Int) (less : e < e') : (2 : ℚ) ^ e * 2 ≤ 2 ^ e' := by
  rw [← zpow_add_one₀ two_ne_zero]
  exact zpow_le_zpow_right₀ (by norm_num) less

theorem half_even_le (q : ℚ) (n : ℕ) (below : q ≤ n) : halfEven q ≤ n := by
  by_cases whole : ⌊q⌋₊ = n
  · have exact_ : q - ⌊q⌋₊ < 1 / 2 := by
      rw [whole]
      linarith
    rw [halfEven, if_pos exact_, whole]
  · have floor : ⌊q⌋₊ ≤ n := Nat.floor_le_of_le below
    have next : halfEven q ≤ ⌊q⌋₊ + 1 := by
      rw [halfEven]
      split_ifs <;> omega
    omega

theorem le_half_even (q : ℚ) (n : ℕ) (above : (n : ℚ) ≤ q) : n ≤ halfEven q := by
  have floor : n ≤ ⌊q⌋₊ := Nat.le_floor above
  have least : ⌊q⌋₊ ≤ halfEven q := by
    rw [halfEven]
    split_ifs <;> omega
  omega

theorem half_even_reaches (q : ℚ) (n : ℕ) (positive : 0 < n) (even : n % 2 = 0) (zero : 0 ≤ q) (below : q < n) :
    halfEven q = n ↔ n - 1 / 2 ≤ q := by
  have floor : ⌊q⌋₊ < n := (Nat.floor_lt zero).mpr below
  have low : (⌊q⌋₊ : ℚ) ≤ q := Nat.floor_le zero
  have step : ((n - 1 : ℕ) : ℚ) = n - 1 := by
    rw [Nat.cast_sub positive, Nat.cast_one]
  constructor
  · intro reached
    by_contra short
    rw [not_le] at short
    rw [halfEven] at reached
    split_ifs at reached with small large
    · omega
    · have last : ⌊q⌋₊ = n - 1 := by omega
      rw [last, step] at large
      linarith
    · omega
    · have last : ⌊q⌋₊ = n - 1 := by omega
      rw [last, step] at small
      linarith
  · intro near
    have last : ⌊q⌋₊ = n - 1 := by
      have reached : n - 1 ≤ ⌊q⌋₊ := by
        refine Nat.le_floor ?_
        rw [step]
        linarith
      omega
    rw [halfEven, last, step]
    have above : ¬q - (n - 1) < 1 / 2 := by linarith
    rw [if_neg above, if_neg (by omega : ¬(n - 1) % 2 = 0)]
    split_ifs <;> omega

section

variable (proper : f.Proper) (q : ℚ)

include proper

theorem Format.scaled_below : q * 2 ^ (-f.exponentOf q) < 2 ^ f.precision := by
  have high : q < (2 : ℚ) ^ (Int.log 2 q + 1) := by
    exact_mod_cast Int.lt_zpow_succ_log_self (b := 2) (by decide) q
  have reach : Int.log 2 q + 1 ≤ f.exponentOf q + f.precision := by
    have bits := proper.bits
    simp only [exponentOf]
    omega
  rw [zpow_neg, ← div_eq_mul_inv, div_lt_iff₀ (zpow_pos two_pos _)]
  calc q < (2 : ℚ) ^ (Int.log 2 q + 1) := high
    _ ≤ 2 ^ (f.exponentOf q + f.precision) := zpow_le_zpow_right₀ (by norm_num) reach
    _ = 2 ^ f.precision * 2 ^ f.exponentOf q := by rw [zpow_add₀ two_ne_zero, zpow_natCast, mul_comm]

end

theorem Format.scaled_full (q : ℚ) (positive : 0 < q) (above : f.minExponent < f.exponentOf q) :
    (2 : ℚ) ^ (f.precision - 1) ≤ q * 2 ^ (-f.exponentOf q) := by
  have low : (2 : ℚ) ^ Int.log 2 q ≤ q := by
    exact_mod_cast Int.zpow_log_le_self (b := 2) (by decide) positive
  have own : Int.log 2 q = ((f.precision - 1 : Nat) : Int) + f.exponentOf q := by
    simp only [exponentOf] at above ⊢
    omega
  rw [zpow_neg, ← div_eq_mul_inv, le_div_iff₀ (zpow_pos two_pos _), ← zpow_natCast, ← zpow_add₀ two_ne_zero, ← own]
  exact low

theorem Format.limit_pos (f : Format) : 0 < f.limit := by
  have one : (1 : ℚ) ≤ 2 ^ f.precision := one_le_pow₀ (by norm_num)
  exact mul_pos (by linarith) (zpow_pos two_pos _)

theorem of_parts_is_finite (negative : Bool) (m : Nat) (e : Int) :
    (Binary.ofParts f negative m e).isFinite = true ↔ f.Canonical m e := by
  unfold Binary.ofParts
  split
  · next canonical => exact ⟨fun _ => canonical, fun _ => rfl⟩
  · next improper => exact ⟨nofun, fun canonical => absurd canonical improper⟩

theorem Format.full_lt (proper : f.Proper) : 2 ^ (f.precision - 1) < 2 ^ f.precision :=
  Nat.pow_lt_pow_right (by decide) (Nat.sub_lt proper.bits Nat.one_pos)

theorem Format.power_twice (proper : f.Proper) : (2 : ℚ) ^ f.precision = 2 * 2 ^ (f.precision - 1) := by
  rw [← pow_succ', Nat.sub_add_cancel proper.bits]

-- A value is rounded to a multiple of a power of two, and that to the next power if it fills up.
theorem of_value_parts (negative : Bool) (q : ℚ) (positive : 0 < q) :
    Binary.ofValue f negative q =
      if halfEven (q * 2 ^ (-f.exponentOf q)) = 2 ^ f.precision then
        Binary.ofParts f negative (2 ^ (f.precision - 1)) (f.exponentOf q + 1)
      else Binary.ofParts f negative (halfEven (q * 2 ^ (-f.exponentOf q))) (f.exponentOf q) :=
  if_neg positive.ne'

theorem of_value_is_finite (proper : f.Proper) (negative : Bool) (q : ℚ) (positive : 0 < q) :
    (Binary.ofValue f negative q).isFinite = true ↔
      f.exponentOf q < f.maxExponent ∨
        f.exponentOf q = f.maxExponent ∧ halfEven (q * 2 ^ (-f.exponentOf q)) ≠ 2 ^ f.precision := by
  have below := f.scaled_below proper q
  have least : f.minExponent ≤ f.exponentOf q := le_max_left _ _
  have most : halfEven (q * 2 ^ (-f.exponentOf q)) ≤ 2 ^ f.precision :=
    half_even_le _ _ (by exact_mod_cast below.le)
  have full : f.exponentOf q = f.minExponent ∨ 2 ^ (f.precision - 1) ≤ halfEven (q * 2 ^ (-f.exponentOf q)) := by
    rcases least.eq_or_lt with same | above
    · exact .inl same.symm
    · exact .inr (le_half_even _ _ (by exact_mod_cast f.scaled_full q positive above))
  have half := f.full_lt proper
  rw [of_value_parts negative q positive]
  split
  · next fills =>
      rw [of_parts_is_finite]
      constructor
      · exact fun canonical => .inl (by have := canonical.2.2.1; omega)
      · rintro (room | ⟨_, short⟩)
        · exact ⟨half, by omega, by omega, .inl (Nat.le_refl _)⟩
        · exact absurd fills short
  · next short =>
      rw [of_parts_is_finite]
      constructor
      · intro canonical
        rcases canonical.2.2.1.lt_or_eq with room | last
        · exact .inl room
        · exact .inr ⟨last, short⟩
      · intro room
        have within : f.exponentOf q ≤ f.maxExponent := by
          rcases room with less | ⟨last, _⟩
          · exact less.le
          · exact last.le
        exact ⟨lt_of_le_of_ne most short, least, within, full.symm⟩

theorem of_value_finite_iff (proper : f.Proper) (negative : Bool) (q : ℚ) (natural : 0 ≤ q) :
    (Binary.ofValue f negative q).isFinite = true ↔ q < f.limit := by
  rcases natural.eq_or_lt with rfl | positive
  · have zero : Binary.ofValue f negative 0 = Binary.ofParts f negative 0 f.minExponent := if_pos rfl
    rw [zero, of_parts_is_finite]
    exact ⟨fun _ => f.limit_pos, fun _ => ⟨Nat.two_pow_pos _, le_refl _, proper.room, .inr rfl⟩⟩
  rw [of_value_is_finite proper negative q positive]
  have below := f.scaled_below proper q
  have twice := f.power_twice proper
  have least : f.minExponent ≤ f.exponentOf q := le_max_left _ _
  have unit : (0 : ℚ) < 2 ^ f.maxExponent := zpow_pos two_pos _
  have one : (1 : ℚ) ≤ 2 ^ (f.precision - 1) := one_le_pow₀ (by norm_num)
  have own : q = q * 2 ^ (-f.exponentOf q) * 2 ^ f.exponentOf q := by
    rw [zpow_neg, inv_mul_cancel_right₀ (zpow_ne_zero _ two_ne_zero)]
  rcases lt_trichotomy (f.exponentOf q) f.maxExponent with less | last | more
  · refine ⟨fun _ => ?_, fun _ => .inl less⟩
    have step := power_doubled _ _ less
    calc q = q * 2 ^ (-f.exponentOf q) * 2 ^ f.exponentOf q := own
      _ < 2 ^ f.precision * 2 ^ f.exponentOf q := mul_lt_mul_of_pos_right below (zpow_pos two_pos _)
      _ = 2 ^ (f.precision - 1) * (2 ^ f.exponentOf q * 2) := by rw [twice]; ring
      _ ≤ 2 ^ (f.precision - 1) * 2 ^ f.maxExponent := by gcongr
      _ ≤ f.limit := mul_le_mul_of_nonneg_right (by linarith) unit.le
  · rw [last] at below own ⊢
    have even : 2 ^ f.precision % 2 = 0 := Nat.mod_eq_zero_of_dvd (dvd_pow_self 2 proper.bits.ne')
    have reaches := half_even_reaches (q * 2 ^ (-f.maxExponent)) (2 ^ f.precision) (Nat.two_pow_pos _) even
      (mul_nonneg natural (zpow_pos two_pos _).le) (by exact_mod_cast below)
    have limit : q * 2 ^ (-f.maxExponent) < 2 ^ f.precision - 1 / 2 ↔ q < f.limit := by
      rw [Format.limit, zpow_neg, ← div_eq_mul_inv, div_lt_iff₀ unit]
    have short : halfEven (q * 2 ^ (-f.maxExponent)) ≠ 2 ^ f.precision ↔
        q * 2 ^ (-f.maxExponent) < 2 ^ f.precision - 1 / 2 := by
      rw [ne_eq, reaches, Nat.cast_pow, Nat.cast_ofNat, not_le]
    rw [← limit, ← short]
    simp
  · refine ⟨fun room => by omega, fun low => absurd low (not_lt.mpr ?_)⟩
    have full := f.scaled_full q positive (by have := proper.room; omega)
    have step := power_doubled _ _ more
    calc f.limit ≤ 2 ^ f.precision * 2 ^ f.maxExponent := mul_le_mul_of_nonneg_right (by linarith) unit.le
      _ = 2 ^ (f.precision - 1) * (2 ^ f.maxExponent * 2) := by rw [twice]; ring
      _ ≤ 2 ^ (f.precision - 1) * 2 ^ f.exponentOf q := by gcongr
      _ ≤ q * 2 ^ (-f.exponentOf q) * 2 ^ f.exponentOf q := mul_le_mul_of_nonneg_right full (zpow_pos two_pos _).le
      _ = q := own.symm

theorem of_ratio_finite_iff (proper : f.Proper) (negative : Bool) (r : Ratio) (den : 0 < r.den) :
    (Binary.ofRatio f negative r).isFinite = true ↔ r.value < f.limit := by
  rw [of_ratio_value f negative r den]
  exact of_value_finite_iff proper negative r.value (div_nonneg (Nat.cast_nonneg _) (Nat.cast_nonneg _))

theorem of_int_finite_iff (proper : f.Proper) (n : Int) :
    (Binary.ofInt f n).isFinite = true ↔ (n.natAbs : ℚ) < f.limit := by
  rw [Binary.ofInt, of_ratio_finite_iff proper _ _ Nat.one_pos, Ratio.value, Nat.cast_one, div_one]

theorem Finite.below_full (proper : f.Proper) (v : Finite f) (e : Int) (small : v.exponent < e) :
    v.value < 2 ^ (f.precision - 1) * 2 ^ e := by
  have bits : (v.mantissa : ℚ) < 2 ^ f.precision := by exact_mod_cast v.canonical.1
  have step := power_doubled _ _ small
  calc v.value < 2 ^ f.precision * 2 ^ v.exponent := mul_lt_mul_of_pos_right bits (zpow_pos two_pos _)
    _ = 2 ^ (f.precision - 1) * (2 ^ v.exponent * 2) := by rw [f.power_twice proper]; ring
    _ ≤ 2 ^ (f.precision - 1) * 2 ^ e := by gcongr

theorem Finite.multiple (v : Finite f) (e : Int) (large : e ≤ v.exponent) : ∃ n : ℕ, v.value = n * 2 ^ e := by
  obtain ⟨k, power⟩ := Int.eq_ofNat_of_zero_le (sub_nonneg.mpr large)
  refine ⟨v.mantissa * 2 ^ k, ?_⟩
  have split : v.exponent = (k : Int) + e := by omega
  rw [value, split, zpow_add₀ two_ne_zero, zpow_natCast]
  push_cast
  ring

theorem rounded_zero (y : Finite f) (negative : Bool) (rounded : Binary.ofValue f negative 0 = .finite y) :
    y.value = 0 := by
  rw [Binary.ofValue, if_pos rfl, Binary.ofParts] at rounded
  split at rounded
  · obtain rfl := Binary.finite.inj rounded
    rw [Finite.value, Nat.cast_zero, zero_mul]
  · cases rounded

section

variable (proper : f.Proper) (v y : Finite f) (negative : Bool) (q : ℚ) (positive : 0 < q)
  (rounded : Binary.ofValue f negative q = .finite y)

include proper positive rounded

theorem rounded_value : y.value = halfEven (q * 2 ^ (-f.exponentOf q)) * 2 ^ f.exponentOf q := by
  rw [of_value_parts negative q positive] at rounded
  split at rounded
  · next fills =>
      unfold Binary.ofParts at rounded
      split at rounded
      · obtain rfl := Binary.finite.inj rounded
        rw [Finite.value, fills, Nat.cast_pow, Nat.cast_pow, Nat.cast_ofNat, f.power_twice proper,
          zpow_add_one₀ two_ne_zero]
        ring
      · cases rounded
  · unfold Binary.ofParts at rounded
    split at rounded
    · obtain rfl := Binary.finite.inj rounded
      rfl
    · cases rounded

theorem Finite.rounds_below (below : q ≤ v.value) : y.value ≤ v.value := by
  have unit : (0 : ℚ) < 2 ^ f.exponentOf q := zpow_pos two_pos _
  rcases lt_or_ge v.exponent (f.exponentOf q) with small | large
  · have full := f.scaled_full q positive (v.canonical.2.1.trans_lt small)
    have less := v.below_full proper (f.exponentOf q) small
    rw [zpow_neg, ← div_eq_mul_inv, le_div_iff₀ unit] at full
    exact absurd (full.trans below) (not_le.mpr less)
  · obtain ⟨n, multiple⟩ := v.multiple (f.exponentOf q) large
    have scaled : q * 2 ^ (-f.exponentOf q) ≤ n := by
      rw [zpow_neg, ← div_eq_mul_inv, div_le_iff₀ unit, ← multiple]
      exact below
    rw [rounded_value proper y negative q positive rounded, multiple]
    exact mul_le_mul_of_nonneg_right (by exact_mod_cast half_even_le _ n scaled) unit.le

theorem Finite.rounds_above (above : v.value ≤ q) : v.value ≤ y.value := by
  have unit : (0 : ℚ) < 2 ^ f.exponentOf q := zpow_pos two_pos _
  rw [rounded_value proper y negative q positive rounded]
  rcases lt_or_ge v.exponent (f.exponentOf q) with small | large
  · have full := f.scaled_full q positive (v.canonical.2.1.trans_lt small)
    have filled := le_half_even _ (2 ^ (f.precision - 1)) (by exact_mod_cast full)
    refine (v.below_full proper (f.exponentOf q) small).le.trans ?_
    exact mul_le_mul_of_nonneg_right (by exact_mod_cast filled) unit.le
  · obtain ⟨n, multiple⟩ := v.multiple (f.exponentOf q) large
    have scaled : (n : ℚ) ≤ q * 2 ^ (-f.exponentOf q) := by
      rw [zpow_neg, ← div_eq_mul_inv, le_div_iff₀ unit, ← multiple]
      exact above
    rw [multiple]
    exact mul_le_mul_of_nonneg_right (by exact_mod_cast le_half_even _ n scaled) unit.le

end

theorem Finite.before (proper : f.Proper) (x : Finite f) (m : ℕ) (e : Int) (full : 2 ^ (f.precision - 1) ≤ m)
    (below : x.value < (m + 1) * 2 ^ e) : x.value ≤ m * 2 ^ e := by
  have unit : (0 : ℚ) < 2 ^ e := zpow_pos two_pos _
  rcases lt_or_ge x.exponent e with small | large
  · refine (x.below_full proper e small).le.trans ?_
    exact mul_le_mul_of_nonneg_right (by exact_mod_cast full) unit.le
  · obtain ⟨n, multiple⟩ := x.multiple e large
    rw [multiple] at below ⊢
    have less : n < m + 1 := by exact_mod_cast lt_of_mul_lt_mul_right below unit.le
    exact mul_le_mul_of_nonneg_right (by exact_mod_cast Nat.le_of_lt_succ less) unit.le

theorem Finite.value_nonneg (x : Finite f) : 0 ≤ x.value := mul_nonneg (Nat.cast_nonneg _) (zpow_pos two_pos _).le

theorem Finite.value_lt_limit (proper : f.Proper) (x : Finite f) : x.value < f.limit := by
  rw [← of_value_finite_iff proper x.negative x.value x.value_nonneg, x.of_value]
  rfl

theorem Finite.ratio_den (x : Finite f) : 0 < x.ratio.den := Ratio.scale_den _ _ Nat.one_pos

theorem Finite.ratio_value (x : Finite f) : x.ratio.value = x.value := by
  rw [ratio, Ratio.scale_value, Ratio.value, Nat.cast_one, div_one, value]

end ShaderKnobs.Number
