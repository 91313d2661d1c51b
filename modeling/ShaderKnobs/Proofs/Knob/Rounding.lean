import ShaderKnobs.Proofs.Json.Fields
import ShaderKnobs.Proofs.Knob.Initial
import ShaderKnobs.Proofs.Knob.Range
import ShaderKnobs.Proofs.Number.Overshoot

set_option autoImplicit false

namespace ShaderKnobs

open Number (Binary Finite double clamp)

namespace Knob

theorem clamp_word (k : Int) :
    (Int64.ofInt (clamp (-2 ^ 63) (2 ^ 63 - 1) k)).toInt = max (-2 ^ 63) (min (2 ^ 63 - 1) k) := by
  rw [Number.clamp_bounds _ _ _ (by decide)]
  exact Int64.toInt_ofInt_of_le (by omega) (by omega)

theorem saturate_value (n : Int64) : (saturate n).toInt = max (-2 ^ 31) (min (2 ^ 31 - 1) n.toInt) := by
  rw [saturate, Number.clamp_bounds _ _ _ (by decide)]
  exact Int32.toInt_ofInt_of_le (by omega) (by omega)

theorem round_half_up_word (x : Finite double) :
    ∃ k : Int, double.HalfUp x.signed k ∧ (∃ y : Finite double, (Binary.finite x).roundHalfUp = .finite y ∧ y.signed = k) ∧
      (roundToInt64 (.finite x)).toInt = max (-2 ^ 63) (min (2 ^ 63 - 1) k) := by
  obtain ⟨y, k, rounded, whole, half⟩ :=
    x.round_half_up Number.double_proper (by decide) (by decide) (by decide)
  refine ⟨k, half, ⟨y, rounded, whole⟩, ?_⟩
  rw [roundToInt64, rounded, y.to_int64 k whole, clamp_word]

theorem half_up_slot (q : ℚ) (k : Int) (half : double.HalfUp q k) :
    max (-2 ^ 31) (min (2 ^ 31 - 1) k) = max (-2 ^ 31) (min (2 ^ 31 - 1) ⌊q + 1 / 2⌋) ↔ q ≠ double.beforeHalf := by
  obtain ⟨low, high⟩ := double.before_half_bounds Number.double_proper
  rcases half with ⟨last | ⟨m, rfl, _, large, _⟩, rfl⟩ | ⟨kept, rfl⟩
  · have nothing : ⌊q + 1 / 2⌋ = 0 := Int.floor_eq_zero_iff.mpr ⟨by linarith, by linarith⟩
    rw [nothing]
    exact iff_of_false (by decide) (not_not.mpr last)
  · refine iff_of_true ?_ ?_
    · rw [Number.floor_half]
      change 2 ^ 52 < m.natAbs at large
      omega
    · exact double.before_half_fraction Number.double_proper m
  · exact iff_of_true rfl fun last => kept (.inl last)

-- Every finite number, and what an integer knob makes of it: the slot value of an edit, the setting of a literal
-- or of an annotation, and the step that its control is told. Where the rounding overshoots, a slot still
-- gets the nearest integer, except for the number before one half.
theorem integer_rounds_half_up (x : Finite double) :
    ∃ k : Int, double.HalfUp x.signed k ∧
      (∃ y : Finite double, (Binary.finite x).roundHalfUp = .finite y ∧ y.signed = k) ∧
      (∃ w : Int32, integer.slotValue? (.float (.finite x)) = some (.int w) ∧
        w.toInt = max (-2 ^ 31) (min (2 ^ 31 - 1) k) ∧
        (w.toInt = max (-2 ^ 31) (min (2 ^ 31 - 1) ⌊x.signed + 1 / 2⌋) ↔ x.signed ≠ double.beforeHalf)) ∧
      ∃ n : Int64, n.toInt = max (-2 ^ 63) (min (2 ^ 63 - 1) k) ∧
        (∀ data : Json, data.number? = some (.finite x) → integer.setting? data = some (.int n)) ∧
        (∀ attributes data, Attributes.value? attributes = some data → data.number? = some (.finite x) →
          integer.initial attributes = .int n) ∧
        ∀ attributes, Attributes.number? "step" attributes = some (.finite x) →
          Fields.get? "step" (integer.params attributes) = some (.ofInt64 n) := by
  obtain ⟨k, half, rounded, word⟩ := round_half_up_word x
  have read : ∀ data : Json, data.number? = some (.finite x) →
      integer.setting? data = some (.int (roundToInt64 (.finite x))) := fun data number => by
    rw [setting?, number, Option.map_some]
  refine ⟨k, half, rounded, ⟨saturate (roundToInt64 (.finite x)), rfl, ?_, ?_⟩, roundToInt64 (.finite x), word, read, ?_, ?_⟩
  · rw [saturate_value, word]
    omega
  · rw [saturate_value, word, ← half_up_slot x.signed k half]
    omega
  · exact fun attributes data given number => initial_of_setting integer attributes data _ given (read data number)
  · intro attributes step
    rw [params, step, Option.getD_some, Fields.get_put, if_pos rfl]

def lastFraction : Finite double := ⟨false, 2 ^ 53 - 1, -1, by decide⟩

def lastFractionTwice : Attributes := [("step", .real lastFraction), ("value", .real lastFraction)]

theorem last_fraction_rounded_up :
    integer.slotValue? (.float (.finite lastFraction)) = some (.int Int32.maxValue) ∧
      Attributes.value? lastFractionTwice = some (.real lastFraction) ∧
      Attributes.number? "step" lastFractionTwice = some (.finite lastFraction) ∧
      integer.setting? (.real lastFraction) = some (.int (2 ^ 52)) ∧
      integer.initial lastFractionTwice = .int (2 ^ 52) ∧
      Fields.get? "step" (integer.params lastFractionTwice) = some (.ofInt64 (2 ^ 52)) := by
  have value : lastFraction.signed = 2 ^ 52 - 1 / 2 := by norm_num [lastFraction, Finite.signed, Finite.value]
  have given : Attributes.value? lastFractionTwice = some (.real lastFraction) := rfl
  have step : Attributes.number? "step" lastFractionTwice = some (.finite lastFraction) := rfl
  obtain ⟨k, ⟨overshot, _⟩ | ⟨_, floor⟩, _, ⟨w, written, slot, _⟩, n, word, read, initial, told⟩ :=
    integer_rounds_half_up lastFraction
  · refine absurd overshot (double.no_overshoot Number.double_proper _ ?_ ?_)
    · rw [value]
      norm_num
    · rw [value]
      norm_num [double, abs_of_pos]
  · have whole : ⌊(2 ^ 52 : ℚ)⌋ = 2 ^ 52 := by norm_num
    rw [value, sub_add_cancel, whole] at floor
    rw [floor] at slot word
    obtain rfl : w = Int32.maxValue := Int32.toInt_inj.mp (slot.trans (by decide))
    obtain rfl : n = 2 ^ 52 := Int64.toInt_inj.mp (word.trans (by decide))
    exact ⟨written, given, step, read _ rfl, initial _ _ given rfl, told _ step⟩

def beforeHalf : Finite double := ⟨false, 2 ^ 53 - 1, -54, by decide⟩

theorem rounded_past_nearest :
    ⌊beforeHalf.signed + 1 / 2⌋ = 0 ∧ (Binary.finite beforeHalf).roundHalfUp = Binary.ofInt double 1 ∧
      integer.slotValue? (.float (.finite beforeHalf)) = some (.int 1) ∧
      integer.setting? (.real beforeHalf) = some (.int 1) ∧
      (Binary.ofInt double (2 ^ 52 + 1)).roundHalfUp = Binary.ofInt double (2 ^ 52 + 2) := by
  refine ⟨?_, by decide +kernel, by decide +kernel, ?_, by decide +kernel⟩
  · rw [Int.floor_eq_zero_iff]
    norm_num [beforeHalf, Finite.signed, Finite.value]
  · rfl

end Knob

end ShaderKnobs
