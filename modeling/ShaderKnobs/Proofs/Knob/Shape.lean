import ShaderKnobs.Knob.Basic

set_option autoImplicit false

namespace ShaderKnobs

def SlotValue.knob : SlotValue → Knob
  | .bool _ => .toggle
  | .int _ => .integer
  | .float _ => .scalar
  | .vec2 _ _ => .point2
  | .vec3 _ _ _ => .point3
  | .color _ _ _ => .color

namespace Knob

theorem slot_value_knob (knob : Knob) (setting : Setting) (value : SlotValue)
    (written : knob.slotValue? setting = some value) : value.knob = knob := by
  cases knob <;> cases setting <;> simp [slotValue?] at written <;> subst written <;> rfl

theorem for_uniform_type (type : UniformType) (attributes : Attributes) :
    (forUniform type attributes).uniformType = type := by
  cases type with
  | vec3 =>
      unfold forUniform
      dsimp only
      split <;> rfl
  | _ => rfl

theorem zero_accepted (knob : Knob) : ∃ value, knob.slotValue? knob.zero = some value := by
  cases knob <;> exact ⟨_, rfl⟩

theorem setting_accepted (knob : Knob) (data : Json) (setting : Setting)
    (read : knob.setting? data = some setting) : ∃ value, knob.slotValue? setting = some value := by
  cases knob with
  | toggle =>
      obtain ⟨flag, _, rfl⟩ := Option.map_eq_some_iff.mp read
      exact ⟨_, rfl⟩
  | integer =>
      obtain ⟨x, _, rfl⟩ := Option.map_eq_some_iff.mp read
      exact ⟨_, rfl⟩
  | scalar =>
      obtain ⟨x, _, rfl⟩ := Option.map_eq_some_iff.mp read
      exact ⟨_, rfl⟩
  | point2 =>
      simp only [setting?, Option.bind_eq_bind, Option.bind_eq_some_iff, Option.some.injEq] at read
      obtain ⟨x, _, y, _, rfl⟩ := read
      exact ⟨_, rfl⟩
  | point3 =>
      simp only [setting?, Option.bind_eq_bind, Option.bind_eq_some_iff, Option.some.injEq] at read
      obtain ⟨x, _, y, _, z, _, rfl⟩ := read
      exact ⟨_, rfl⟩
  | color =>
      simp only [setting?, Option.bind_eq_bind, Option.bind_eq_some_iff, Option.some.injEq] at read
      obtain ⟨r, _, g, _, b, _, rfl⟩ := read
      exact ⟨_, rfl⟩

theorem reading_or_zero_accepted (knob : Knob) (data : Option Json) :
    ∃ value, knob.slotValue? ((data.bind knob.setting?).getD knob.zero) = some value := by
  cases read : data.bind knob.setting? with
  | none => exact zero_accepted knob
  | some setting =>
      obtain ⟨raw, _, fits⟩ := Option.bind_eq_some_iff.mp read
      exact setting_accepted knob raw setting fits

theorem initial_accepted (knob : Knob) (attributes : Attributes) :
    ∃ value, knob.slotValue? (knob.initial attributes) = some value := by
  cases knob with
  | toggle => exact ⟨_, rfl⟩
  | integer => exact reading_or_zero_accepted .integer (Attributes.value? attributes)
  | scalar => exact reading_or_zero_accepted .scalar (Attributes.value? attributes)
  | point2 => exact reading_or_zero_accepted .point2 (Attributes.value? attributes)
  | point3 => exact reading_or_zero_accepted .point3 (Attributes.value? attributes)
  | color => exact reading_or_zero_accepted .color (Attributes.value? attributes)

end Knob

theorem Tunable.knob_type (tunable : Tunable) : tunable.knob.uniformType = tunable.type :=
  Knob.for_uniform_type tunable.type tunable.attributes

theorem Tunable.initial_accepted (tunable : Tunable) :
    ∃ value, tunable.knob.slotValue? tunable.initial = some value :=
  Knob.initial_accepted tunable.knob tunable.attributes

end ShaderKnobs
