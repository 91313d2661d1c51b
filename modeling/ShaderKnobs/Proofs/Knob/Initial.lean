import ShaderKnobs.Proofs.Knob.Shape

set_option autoImplicit false

namespace ShaderKnobs

namespace Knob

theorem toggle_reads_flag (data : Json) (setting : Setting) (read : toggle.setting? data = some setting) :
    setting = .bool data.truthy := by
  obtain ⟨flag, own, rfl⟩ := Option.map_eq_some_iff.mp read
  cases data <;> cases own
  rfl

theorem initial_of_setting (knob : Knob) (attributes : Attributes) (data : Json) (setting : Setting)
    (given : Attributes.value? attributes = some data) (read : knob.setting? data = some setting) :
    knob.initial attributes = setting := by
  cases knob with
  | toggle =>
      rw [toggle_reads_flag data setting read, initial, given]
      rfl
  | _ => simp only [initial, given, Option.bind_some, read, Option.getD_some]

theorem color_shaped (data : Json) (shaped : isColorShaped data = true) :
    ∃ r g b, data.numberField? "r" = some r ∧ data.numberField? "g" = some g ∧ data.numberField? "b" = some b ∧
      color.setting? data = some (.color r g b (data.numberField? "a")) := by
  simp only [isColorShaped, Bool.and_eq_true] at shaped
  obtain ⟨⟨red, green⟩, blue⟩ := shaped
  obtain ⟨r, red⟩ := Option.isSome_iff_exists.mp red
  obtain ⟨g, green⟩ := Option.isSome_iff_exists.mp green
  obtain ⟨b, blue⟩ := Option.isSome_iff_exists.mp blue
  refine ⟨r, g, b, red, green, blue, ?_⟩
  simp only [setting?, red, green, blue, Option.bind_eq_bind, Option.bind_some]

theorem for_uniform_color (type : UniformType) (attributes : Attributes)
    (resolved : forUniform type attributes = .color) :
    ∃ data, Attributes.value? attributes = some data ∧ isColorShaped data = true := by
  cases type with
  | vec3 =>
      cases given : Attributes.value? attributes with
      | none => simp [forUniform, given] at resolved
      | some data =>
          refine ⟨data, rfl, ?_⟩
          simpa [forUniform, given] using resolved
  | _ => cases resolved

end Knob

/-- An annotated uniform starts with a setting that its knob writes, as a value of the declared type. It
is the setting that an edit with the annotated data gives, if there is one, and there is one for every
color. -/
structure Tunable.Starts (tunable : Tunable) : Prop where
  written : ∃ value, tunable.knob.slotValue? tunable.initial = some value ∧ value.knob = tunable.knob ∧
    value.knob.uniformType = tunable.type
  agrees : ∀ data setting, Attributes.value? tunable.attributes = some data →
    tunable.knob.setting? data = some setting → tunable.initial = setting
  color : tunable.knob = .color → ∃ data r g b, Attributes.value? tunable.attributes = some data ∧
    data.numberField? "r" = some r ∧ data.numberField? "g" = some g ∧ data.numberField? "b" = some b ∧
    tunable.initial = .color r g b (data.numberField? "a") ∧ tunable.knob.misfit? tunable.attributes = none

theorem Tunable.starts (tunable : Tunable) : tunable.Starts where
  written := by
    obtain ⟨value, written⟩ := tunable.initial_accepted
    have own := Knob.slot_value_knob tunable.knob tunable.initial value written
    exact ⟨value, written, own, own ▸ tunable.knob_type⟩
  agrees data setting := Knob.initial_of_setting tunable.knob tunable.attributes data setting
  color resolved := by
    obtain ⟨data, given, shaped⟩ := Knob.for_uniform_color tunable.type tunable.attributes resolved
    obtain ⟨r, g, b, red, green, blue, read⟩ := Knob.color_shaped data shaped
    refine ⟨data, r, g, b, given, red, green, blue, ?_, ?_⟩
    · refine Knob.initial_of_setting tunable.knob tunable.attributes data _ given ?_
      rw [resolved]
      exact read
    · simp [resolved, Knob.misfit?, given, read]

end ShaderKnobs
