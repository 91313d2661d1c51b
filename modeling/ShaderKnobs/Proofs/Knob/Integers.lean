import ShaderKnobs.Proofs.Knob.Rounding
import ShaderKnobs.Proofs.Number.Twice

set_option autoImplicit false

namespace ShaderKnobs

open Number (Binary Finite Format single double BesideHalfway)

def wordEnd : Finite double := ⟨false, 2 ^ 52, 11, by decide⟩

theorem word_end_value : wordEnd.value = (2 ^ 63 : ℕ) := by
  norm_num [wordEnd, Finite.value]

namespace Knob

-- An integer that a literal hands on unchanged to an integer knob: one half added to it is rounded down to it
-- again. The greatest one is rounded up, and the bounds of a word bring it back.
def Kept (n : Int64) : Prop :=
  n = Int64.maxValue ∨
    (∃ z : Finite double, z.signed = n.toInt) ∧ (n.toInt.natAbs ≤ 2 ^ 52 ∨ n.toInt % 2 = 0)

theorem word_magnitude (n : Int64) : n.toInt.natAbs ≤ 2 ^ 63 := by
  have low := n.le_toInt
  have high := n.toInt_lt
  omega

theorem double_of_word (n : Int64) :
    ∃ x : Finite double, Binary.ofInt double n.toInt = .finite x ∧ x.negative = decide (n.toInt < 0) ∧
      x.value = double.round n.toInt.natAbs ∧ x.signed = double.nearest n.toInt := by
  have word : (n.toInt.natAbs : ℚ) ≤ 2 ^ 63 := by exact_mod_cast word_magnitude n
  exact Number.of_int_nearest Number.double_proper n.toInt (double_room _ (by linarith))

theorem round_word (m : ℕ) (word : m ≤ 2 ^ 63) : double.round m ≤ (2 ^ 63 : ℕ) := by
  rw [← word_end_value]
  apply wordEnd.round_le Number.double_proper m (Nat.cast_nonneg m)
  rw [word_end_value]
  exact_mod_cast word

theorem round_outside (m : ℕ) (large : 2 ^ 53 ≤ m) (word : m ≤ 2 ^ 63) :
    ∃ k : ℕ, double.round m = k ∧ k % 2 = 0 ∧ 2 ^ 53 ≤ k ∧ k ≤ 2 ^ 63 := by
  have below := round_word m word
  obtain ⟨s, q, r, full, bits, inside, rfl⟩ := Number.large_parts 53 m (by decide) large
  obtain ⟨c, rounded, least⟩ : ∃ c : ℕ, double.round (q * (2 * 2 ^ s) + r : ℕ) = (c * (2 * 2 ^ s) : ℕ) ∧ q ≤ c :=
    ⟨_, double.round_parts Number.double_proper (by decide) s q r full bits inside.le, by split <;> omega⟩
  rw [rounded, Nat.cast_le] at below
  refine ⟨c * (2 * 2 ^ s), rounded, ?_, ?_, below⟩
  · rw [Nat.mul_left_comm, Nat.mul_mod_right]
  · have step : 2 * 1 ≤ 2 * 2 ^ s := Nat.mul_le_mul_left 2 Nat.one_le_two_pow
    exact Nat.mul_le_mul (full.trans least) step

theorem half_up_integer (n k : Int) (half : double.HalfUp n k) :
    k = if n % 2 = 1 ∧ 2 ^ 52 < n.natAbs ∧ n.natAbs < 2 ^ 53 then n + 1 else n :=
  (double.half_up_whole Number.double_proper n k).mp half

-- Below `2 ^ 53` the double is the integer. Up to `2 ^ 52` one half is added exactly; further out the sum is a
-- tie, which takes an odd integer to the one after it.
theorem read_inside (n : Int64) (few : n.toInt.natAbs < 2 ^ 53) :
    (roundToInt64 (Binary.ofInt double n.toInt)).toInt =
      if n.toInt.natAbs ≤ 2 ^ 52 then n.toInt else n.toInt + n.toInt % 2 := by
  obtain ⟨x, read, _, _, signed⟩ := double_of_word n
  rw [double.nearest_bits Number.double_proper (by decide) n.toInt few.le] at signed
  obtain ⟨k, half, _, word⟩ := round_half_up_word x
  rw [signed] at half
  rw [read, word, half_up_integer _ k half]
  split <;> omega

-- From there on the double is an even integer that one half does not move. It can leave the words only at
-- their upper end.
theorem read_outside (n : Int64) (k : ℕ) (large : 2 ^ 53 ≤ k) (word : k ≤ 2 ^ 63)
    (rounded : double.round n.toInt.natAbs = k) :
    (roundToInt64 (Binary.ofInt double n.toInt)).toInt =
      if n.toInt < 0 then -(k : Int) else min (2 ^ 63 - 1) k := by
  obtain ⟨x, read, sign, value, _⟩ := double_of_word n
  rw [rounded] at value
  have signed : x.signed = (if n.toInt < 0 then -(k : Int) else k : Int) := by
    rw [x.signed_of (n.toInt < 0) sign, value]
    split <;> push_cast <;> rfl
  obtain ⟨k', half, _, word'⟩ := round_half_up_word x
  rw [signed] at half
  have kept := half_up_integer _ k' half
  rw [if_neg (by split <;> omega)] at kept
  rw [read, word', kept]
  split <;> omega

theorem greatest_rounded : double.round Int64.maxValue.toInt.natAbs = (2 ^ 63 : ℕ) := by
  have parts : Int64.maxValue.toInt.natAbs = (2 ^ 53 - 1) * (2 * 2 ^ 9) + 1023 := by decide
  rw [parts, double.round_parts Number.double_proper (by decide) 9 _ 1023 (by decide) (by decide) (by decide)]
  norm_num

theorem read_kept_iff (n : Int64) : roundToInt64 (Binary.ofInt double n.toInt) = n ↔ Kept n := by
  obtain ⟨x, _, _, value, signed⟩ := double_of_word n
  rw [← Int64.toInt_inj, Kept]
  by_cases few : n.toInt.natAbs < 2 ^ 53
  · have exact_ := double.nearest_bits Number.double_proper (by decide) n.toInt few.le
    have notGreatest : n ≠ Int64.maxValue := by
      rintro rfl
      revert few
      decide
    rw [read_inside n few, or_iff_right notGreatest, and_iff_right ⟨x, signed.trans exact_⟩]
    split <;> omega
  · obtain ⟨k, rounded, even, large, word⟩ := round_outside _ (Nat.le_of_not_lt few) (word_magnitude n)
    rw [read_outside n k large word rounded]
    by_cases greatest : n = Int64.maxValue
    · rw [greatest, greatest_rounded, Nat.cast_inj] at rounded
      rw [greatest, ← rounded]
      exact iff_of_true (by decide) (.inl rfl)
    · have most := n.toInt_lt
      have below : n.toInt ≠ 2 ^ 63 - 1 := fun same => greatest (Int64.toInt_inj.mp same)
      rw [or_iff_right greatest]
      constructor
      · intro same
        have own : k = n.toInt.natAbs := by
          split at same <;> omega
        rw [own] at rounded
        exact ⟨⟨x, signed.trans (double.nearest_kept n.toInt rounded)⟩, .inr (by omega)⟩
      · rintro ⟨⟨z, own⟩, _⟩
        have kept := z.round_value Number.double_proper
        rw [z.value_of_signed n.toInt own, rounded, Nat.cast_inj] at kept
        split <;> omega

theorem saturate_read (n : Int64) : saturate (roundToInt64 (Binary.ofInt double n.toInt)) = saturate n := by
  rw [← Int32.toInt_inj, saturate_value, saturate_value]
  by_cases few : n.toInt.natAbs < 2 ^ 53
  · rw [read_inside n few]
    split <;> omega
  · obtain ⟨k, rounded, _, large, word⟩ := round_outside _ (Nat.le_of_not_lt few) (word_magnitude n)
    rw [read_outside n k large word rounded]
    split <;> omega

theorem narrow_of_word (n : Int64) :
    ∃ x y : Finite single, Binary.ofInt single n.toInt = .finite x ∧ narrow (Binary.ofInt double n.toInt) = .finite y ∧
      x.negative = decide (n.toInt < 0) ∧ y.negative = x.negative ∧ x.value = single.round n.toInt.natAbs ∧
      y.value = single.round (double.round n.toInt.natAbs) := by
  have word : (n.toInt.natAbs : ℚ) ≤ 2 ^ 63 := by exact_mod_cast word_magnitude n
  obtain ⟨x, direct, sign, value⟩ :=
    Number.of_int_rounds Number.single_proper n.toInt (single_room _ (by linarith))
  obtain ⟨z, read, sign', value', _⟩ := double_of_word n
  have below : z.value ≤ 2 ^ 63 := by
    have top := round_word n.toInt.natAbs (word_magnitude n)
    rw [value']
    exact_mod_cast top
  obtain ⟨y, narrowed, sign'', value''⟩ :=
    Number.of_value_rounds Number.single_proper z.negative z.value z.value_nonneg (single_room _ (by linarith))
  refine ⟨x, y, direct, ?_, sign, ?_, value, ?_⟩
  · rw [read, ← narrowed, ← z.ratio_value]
    exact Number.of_ratio_value single z.negative z.ratio z.ratio_den
  · rw [sign'', sign', sign]
  · rw [value'', value']

theorem single_nearest (n : Int) (x z : Finite single) (sign : x.negative = decide (n < 0))
    (value : x.value = single.round n.natAbs) : |x.signed - n| ≤ |z.signed - n| := by
  have nearest := single.round_nearest Number.single_proper n.natAbs (Nat.cast_nonneg _) z
  have apart := abs_abs_sub_abs_le_abs_sub z.signed n
  have own : |x.signed - n| = |single.round n.natAbs - n.natAbs| := by
    rw [x.signed_of (n < 0) sign, value, Nat.cast_natAbs, Int.cast_abs]
    by_cases negative : n < 0
    · have below : (n : ℚ) < 0 := by exact_mod_cast negative
      have turned : -single.round (-n) - n = -(single.round (-n) - -n) := by ring
      rw [if_pos negative, abs_of_neg below, turned, abs_neg]
    · have above : (0 : ℚ) ≤ n := by exact_mod_cast not_lt.mp negative
      rw [if_neg negative, abs_of_nonneg above]
  rw [own]
  rw [← z.value_signed, ← Int.cast_abs, ← Nat.cast_natAbs] at apart
  exact nearest.trans apart

-- An integer as a literal and as an edit. An integer knob may take the literal for another integer, but never
-- writes another number. A scalar knob writes the nearest number for an edit, and for a literal as well unless
-- the double is half-way between two numbers and the integer is not.
theorem integers_by_literal_and_edit (n : Int64) :
    (integer.setting? (.ofInt64 n) = some (.int n) ↔ Kept n) ∧
      (∃ w : Int32, w.toInt = max (-2 ^ 31) (min (2 ^ 31 - 1) n.toInt) ∧
        integer.slotValue? (.int n) = some (.int w) ∧
        (integer.setting? (.ofInt64 n)).bind integer.slotValue? = some (.int w)) ∧
      ∃ x y : Finite single, scalar.slotValue? (.int n) = some (.float (.finite x)) ∧
        (∀ z : Finite single, |x.signed - n.toInt| ≤ |z.signed - n.toInt|) ∧
        (scalar.setting? (.ofInt64 n)).bind scalar.slotValue? = some (.float (.finite y)) ∧
        (y = x ↔ ¬BesideHalfway n.toInt.natAbs) := by
  have integer_read : integer.setting? (.ofInt64 n) = some (.int (roundToInt64 (Binary.ofInt double n.toInt))) := rfl
  have scalar_read : scalar.setting? (.ofInt64 n) = some (.float (Binary.ofInt double n.toInt)) := rfl
  refine ⟨?_, ?_, ?_⟩
  · rw [integer_read, ← read_kept_iff, Option.some.injEq, Setting.int.injEq]
  · refine ⟨saturate n, saturate_value n, rfl, ?_⟩
    rw [integer_read, Option.bind_some, slotValue?, saturate_read]
  · obtain ⟨x, y, direct, read, sign, same, value, value'⟩ := narrow_of_word n
    refine ⟨x, y, ?_, fun z => single_nearest n.toInt x z sign value, ?_, ?_⟩
    · rw [slotValue?, direct]
    · rw [scalar_read, Option.bind_some, slotValue?, read]
    · rw [← Number.twice_rounded, ← value, ← value']
      exact ⟨congrArg Finite.value, y.same x same⟩

theorem odd_literal_moved :
    integer.setting? (.ofInt64 (2 ^ 52 + 1)) = some (.int (2 ^ 52 + 2)) ∧
      (scalar.setting? (.ofInt64 (2 ^ 60 + 2 ^ 36 + 1))).bind scalar.slotValue? ≠
        scalar.slotValue? (.int (2 ^ 60 + 2 ^ 36 + 1)) := by
  decide +kernel

end Knob

end ShaderKnobs
