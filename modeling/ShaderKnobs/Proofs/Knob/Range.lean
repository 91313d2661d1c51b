import ShaderKnobs.Proofs.Knob.Shape
import ShaderKnobs.Proofs.Number.Overflow

set_option autoImplicit false

namespace ShaderKnobs

open Number (Binary Double Finite Format Single single double)

def Number.Binary.Below (bound : ℚ) : Double → Prop
  | .finite x => x.value < bound
  | _ => False

def Setting.Finite : Setting → Prop
  | .bool _ => True
  | .int _ => True
  | .float x => x.isFinite
  | .color r g b a => r.isFinite ∧ g.isFinite ∧ b.isFinite ∧ ∀ alpha ∈ a, alpha.isFinite
  | .vec3 x y z => x.isFinite ∧ y.isFinite ∧ z.isFinite
  | .vec2 x y => x.isFinite ∧ y.isFinite

def SlotValue.Finite : SlotValue → Prop
  | .bool _ => True
  | .int _ => True
  | .float x => x.isFinite
  | .vec2 x y => x.isFinite ∧ y.isFinite
  | .vec3 x y z => x.isFinite ∧ y.isFinite ∧ z.isFinite
  | .color r g b => r.isFinite ∧ g.isFinite ∧ b.isFinite

instance : (value : SlotValue) → Decidable value.Finite
  | .bool _ => .isTrue trivial
  | .int _ => .isTrue trivial
  | .float x => inferInstanceAs (Decidable (x.isFinite = true))
  | .vec2 x y => inferInstanceAs (Decidable (x.isFinite = true ∧ y.isFinite = true))
  | .vec3 x y z => inferInstanceAs (Decidable (x.isFinite = true ∧ y.isFinite = true ∧ z.isFinite = true))
  | .color r g b => inferInstanceAs (Decidable (r.isFinite = true ∧ g.isFinite = true ∧ b.isFinite = true))

theorem single_limit : single.limit = 2 ^ 128 - 2 ^ 103 := by
  norm_num [Format.limit, single]

theorem single_room (q : ℚ) (word : q ≤ 2 ^ 64) : q < single.limit := by
  rw [single_limit]
  linarith

theorem double_room (q : ℚ) (word : q ≤ 2 ^ 64) : q < double.limit := by
  have unit : (2 : ℚ) ^ (20 : Int) ≤ 2 ^ double.maxExponent := zpow_le_zpow_right₀ (by norm_num) (by decide)
  calc q ≤ 2 ^ 64 := word
    _ < (2 ^ 53 - 1 / 2) * 2 ^ (20 : Int) := by norm_num
    _ ≤ double.limit := mul_le_mul_of_nonneg_left unit (by norm_num)

theorem of_word_finite (n : Int) (word : n.natAbs ≤ 2 ^ 64) : (Binary.ofInt single n).isFinite = true := by
  rw [Number.of_int_finite_iff Number.single_proper]
  exact single_room _ (by exact_mod_cast word)

namespace Knob

theorem narrow_finite_iff (x : Double) : (narrow x).isFinite = true ↔ x.Below single.limit := by
  cases x with
  | nan => exact ⟨nofun, nofun⟩
  | infinite _ => exact ⟨nofun, nofun⟩
  | finite x =>
      change (Binary.ofRatio single x.negative x.ratio).isFinite = true ↔ x.value < single.limit
      rw [Number.of_ratio_finite_iff Number.single_proper _ _ x.ratio_den, x.ratio_value]

-- The limit as a double, and the double before it.
def limitDouble : Finite double := ⟨false, 2 ^ 53 - 2 ^ 28, 75, by decide⟩

def beforeLimit : Finite double := ⟨false, 2 ^ 53 - 2 ^ 28 - 1, 75, by decide⟩

theorem limit_double_value : limitDouble.value = single.limit := by
  rw [single_limit]
  norm_num [limitDouble, Finite.value]

theorem before_limit_value : beforeLimit.value = single.limit - 2 ^ 75 := by
  rw [single_limit]
  norm_num [beforeLimit, Finite.value]

-- A quotient by 255 is rounded before it is narrowed, and that rounding does not cross the limit.
theorem quotient_below_limit (x y : Finite double) (negative : Bool)
    (rounded : Binary.ofValue double negative (x.value / 255) = .finite y) :
    y.value < single.limit ↔ x.value < 255 * single.limit := by
  rcases x.value_nonneg.eq_or_lt with zero | positive
  · rw [← zero, zero_div] at rounded
    have limit := single.limit_pos
    rw [Number.rounded_zero y negative rounded, ← zero]
    exact ⟨fun _ => by linarith, fun _ => limit⟩
  have positive' : 0 < x.value / 255 := div_pos positive (by norm_num)
  constructor
  · intro low
    by_contra high
    rw [not_lt] at high
    have above : limitDouble.value ≤ x.value / 255 := by
      rw [limit_double_value, le_div_iff₀ (by norm_num), mul_comm]
      exact high
    have reached := Finite.rounds_above Number.double_proper limitDouble y negative _ positive' rounded above
    rw [limit_double_value] at reached
    exact absurd low (not_lt.mpr reached)
  · intro low
    have step := x.before Number.double_proper (255 * (2 ^ 45 - 2 ^ 20) - 1) 83 (by decide) (by
      rw [single_limit] at low
      norm_num at low ⊢
      exact low)
    have below : x.value / 255 ≤ beforeLimit.value := by
      rw [before_limit_value, single_limit, div_le_iff₀ (by norm_num)]
      norm_num at step ⊢
      linarith
    have kept := Finite.rounds_below Number.double_proper beforeLimit y negative _ positive' rounded below
    rw [before_limit_value] at kept
    linarith

theorem over_value (x : Finite double) :
    (Binary.finite x).over ⟨255, 1⟩ = Binary.ofValue double x.negative (x.value / 255) := by
  change Binary.ofRatio double x.negative ⟨x.ratio.num * 1, x.ratio.den * 255⟩ = _
  rw [Number.of_ratio_value double _ _ (Nat.mul_pos x.ratio_den (by decide))]
  congr 1
  change ((x.ratio.num * 1 : ℕ) : ℚ) / ((x.ratio.den * 255 : ℕ) : ℚ) = x.value / 255
  rw [← x.ratio_value, Number.Ratio.value, Nat.mul_one, Nat.cast_mul, div_div]
  rfl

theorem channel_finite_iff (x : Double) : (channel x).isFinite = true ↔ x.Below (255 * single.limit) := by
  cases x with
  | nan => exact ⟨nofun, nofun⟩
  | infinite _ => exact ⟨nofun, nofun⟩
  | finite x =>
      have finite : (Binary.ofValue double x.negative (x.value / 255)).isFinite = true := by
        rw [Number.of_value_finite_iff Number.double_proper _ _ (div_nonneg x.value_nonneg (by norm_num))]
        exact (div_le_self x.value_nonneg (by norm_num)).trans_lt (x.value_lt_limit Number.double_proper)
      rw [channel, narrow_finite_iff, over_value]
      cases rounded : Binary.ofValue double x.negative (x.value / 255) with
      | finite y => exact quotient_below_limit x y x.negative rounded
      | _ =>
          rw [rounded] at finite
          cases finite

-- Data holds no infinity, and so no setting that is read from it does.
theorem number_finite (data : Json) (x : Double) (read : data.number? = some x) : x.isFinite = true := by
  cases data with
  | whole n =>
      obtain rfl := Option.some.inj read
      have bound : (n.value.natAbs : ℚ) ≤ 2 ^ 64 := by
        have := n.bounded
        exact_mod_cast (by omega : n.value.natAbs ≤ 2 ^ 64)
      rw [Number.of_int_finite_iff Number.double_proper]
      exact double_room _ bound
  | real y =>
      obtain rfl := Option.some.inj read
      rfl
  | _ => cases read

theorem field_finite (data : Json) (key : String) (x : Double) (read : data.numberField? key = some x) :
    x.isFinite = true := by
  obtain ⟨value, _, number⟩ := Option.bind_eq_some_iff.mp read
  exact number_finite value x number

theorem setting_finite (knob : Knob) (data : Json) (setting : Setting) (read : knob.setting? data = some setting) :
    setting.Finite := by
  cases knob with
  | toggle =>
      obtain ⟨flag, _, rfl⟩ := Option.map_eq_some_iff.mp read
      trivial
  | integer =>
      obtain ⟨x, _, rfl⟩ := Option.map_eq_some_iff.mp read
      trivial
  | scalar =>
      obtain ⟨x, number, rfl⟩ := Option.map_eq_some_iff.mp read
      exact number_finite data x number
  | point2 =>
      simp only [setting?, Option.bind_eq_bind, Option.bind_eq_some_iff, Option.some.injEq] at read
      obtain ⟨x, first, y, second, rfl⟩ := read
      exact ⟨field_finite data _ x first, field_finite data _ y second⟩
  | point3 =>
      simp only [setting?, Option.bind_eq_bind, Option.bind_eq_some_iff, Option.some.injEq] at read
      obtain ⟨x, first, y, second, z, third, rfl⟩ := read
      exact ⟨field_finite data _ x first, field_finite data _ y second, field_finite data _ z third⟩
  | color =>
      simp only [setting?, Option.bind_eq_bind, Option.bind_eq_some_iff, Option.some.injEq] at read
      obtain ⟨r, red, g, green, b, blue, rfl⟩ := read
      exact ⟨field_finite data _ r red, field_finite data _ g green, field_finite data _ b blue,
        fun a alpha => field_finite data _ a alpha⟩

theorem zero_finite (knob : Knob) : knob.zero.Finite := by
  have zero : zeroDouble.isFinite = true := by decide +kernel
  cases knob <;> simp [Knob.zero, Setting.Finite, zero]

theorem initial_finite (knob : Knob) (attributes : Attributes) : (knob.initial attributes).Finite := by
  have read : ∀ other : Knob, (((Attributes.value? attributes).bind other.setting?).getD other.zero).Finite := by
    intro other
    cases found : (Attributes.value? attributes).bind other.setting? with
    | none => exact zero_finite other
    | some setting =>
        obtain ⟨data, _, fits⟩ := Option.bind_eq_some_iff.mp found
        exact setting_finite other data setting fits
  cases knob with
  | toggle => trivial
  | integer => exact read .integer
  | scalar => exact read .scalar
  | point2 => exact read .point2
  | point3 => exact read .point3
  | color => exact read .color

def Within : Knob → Setting → Prop
  | .scalar, .float x => x.Below single.limit
  | .point2, .vec2 x y => x.Below single.limit ∧ y.Below single.limit
  | .point3, .vec3 x y z => x.Below single.limit ∧ y.Below single.limit ∧ z.Below single.limit
  | .color, .color r g b _ =>
      r.Below (255 * single.limit) ∧ g.Below (255 * single.limit) ∧ b.Below (255 * single.limit)
  | _, _ => True

theorem slot_value_finite_iff (knob : Knob) (setting : Setting) (value : SlotValue)
    (written : knob.slotValue? setting = some value) : value.Finite ↔ knob.Within setting := by
  cases knob <;> cases setting <;> cases written <;>
    simp only [SlotValue.Finite, Within, narrow_finite_iff, channel_finite_iff]
  next n =>
    have low := n.le_toInt
    have high := n.toInt_lt
    exact iff_true_intro (of_word_finite n.toInt (by omega))

end Knob

end ShaderKnobs
