import Mathlib.Tactic.Choose
import ShaderKnobs.Proofs.Knob.Range
import ShaderKnobs.Proofs.Number.Whole
import ShaderKnobs.Proofs.Studio.FrameCount

set_option autoImplicit false

namespace ShaderKnobs

open Number (Binary Finite single)

theorem frame_value_rounds (frame : ℕ) (word : frame < 2 ^ 64) :
    ∃ x : Finite single, frameValue frame = .float (.finite x) ∧ x.signed = single.round frame := by
  have room := single_room frame (by exact_mod_cast word.le)
  obtain ⟨x, rounded, sign, value⟩ := Number.of_int_rounds Number.single_proper frame (by exact_mod_cast room)
  have natural : x.negative = false := by
    rw [sign]
    exact decide_eq_false (by omega)
  refine ⟨x, congrArg SlotValue.float rounded, ?_⟩
  rw [Finite.signed, natural, value]
  rfl

-- Both roundings are off by no more than one part in `2 ^ 24`, and the numbers are further apart.
theorem single_round_later (early late : ℕ) (later : early + early / 2 ^ 22 < late) :
    single.round early < single.round late := by
  have bits : (2 : ℚ) ^ single.precision = 2 ^ 24 := rfl
  have above := single.round_error Number.single_proper (by decide) early
  have below := single.round_error Number.single_proper (by decide) late
  have distance : early * (2 ^ 22 + 1) < late * 2 ^ 22 := by omega
  have distance' : (early : ℚ) * (2 ^ 22 + 1) < late * 2 ^ 22 := by exact_mod_cast distance
  have upper := le_abs_self (single.round early - early)
  have lower := neg_abs_le (single.round late - late)
  have natural : (0 : ℚ) ≤ early := Nat.cast_nonneg early
  rw [bits] at above below
  linarith

namespace Studio

variable {P : Type} [EditHost P]

theorem built_counted (panel : P) (lastProgram : Nat) (before : List Act) (name : String) (scene : SceneId)
    (options : Options) (index : Nat) (built : Studio Engine P)
    (success : build name scene options (perform before (blank panel lastProgram)) = (.ok index, built)) :
    ∃ plan shader, Blueprint.ofOptions options = .ok plan ∧ built.shaders[index]? = some shader ∧
      ∀ time, plan.counter = some time → ∀ after,
        CountedTo (after.countP (·.renders scene)) ⟨scene, index, shader.material, time⟩ (perform after built) := by
  have clocked := (perform_counts before _ (blank_clocked panel lastProgram)).1
  obtain ⟨rfl, plan, shader, material, drawn, arrived⟩ := build_arrived name scene options _ built index success
  have live : built.shaders[(perform before (blank panel lastProgram)).shaders.length]? = some shader := by
    rw [arrived.shaders]
    simp
  refine ⟨plan, shader, drawn, live, fun time counter after => ?_⟩
  have new : newTimer? scene plan shader (perform before (blank panel lastProgram)).shaders.length =
      some ⟨scene, _, shader.material, time⟩ := congrArg (Option.map _) counter
  have member : ⟨scene, (perform before (blank panel lastProgram)).shaders.length, shader.material, time⟩ ∈
      built.timers := by
    rw [arrived.timers clocked, new]
    exact List.mem_append_right _ List.mem_cons_self
  obtain ⟨later, counted⟩ := perform_counts after built (arrived.clocked clocked)
  obtain ⟨kept, frames⟩ := counted _ member
  rw [(arrived.starts clocked _ new).1, Nat.zero_add] at frames
  exact later.counted _ kept _ frames

theorem counter_never_falls (panel : P) (lastProgram : Nat) (before : List Act) (name : String) (scene : SceneId)
    (options : Options) (index : Nat) (built : Studio Engine P)
    (success : build name scene options (perform before (blank panel lastProgram)) = (.ok index, built)) :
    ∃ plan shader, Blueprint.ofOptions options = .ok plan ∧ built.shaders[index]? = some shader ∧
      ∀ time, plan.counter = some time → ∀ after : List Act,
        let frames := after.countP (·.renders scene)
        frames < 2 ^ 64 → ∃ shown : ℕ → Finite single,
          (perform after built).engine.writesTo shader.material time =
            (List.range frames).map (fun frame => .float (.finite (shown frame))) ∧
          (∀ frame, frame + 1 < frames → (shown frame).signed ≤ (shown (frame + 1)).signed ∧
            ((shown frame).signed < (shown (frame + 1)).signed ↔ single.Passes frame)) ∧
          -- No number is shown for long.
          ∀ early late, late < frames → early + early / 2 ^ 22 < late → (shown early).signed < (shown late).signed := by
  obtain ⟨plan, shader, drawn, live, counted⟩ :=
    built_counted panel lastProgram before name scene options index built success
  refine ⟨plan, shader, drawn, live, fun time counter after => ?_⟩
  intro frames small
  have each : ∀ frame : ℕ, ∃ x : Finite single, frame < frames →
      frameValue frame = .float (.finite x) ∧ x.signed = single.round frame := by
    intro frame
    by_cases inside : frame < frames
    · obtain ⟨x, shows⟩ := frame_value_rounds frame (inside.trans small)
      exact ⟨x, fun _ => shows⟩
    · exact ⟨⟨false, 0, single.minExponent, by decide⟩, fun below => absurd below inside⟩
  choose shown shows using each
  refine ⟨shown, ?_, fun frame next => ?_, fun early late inside later => ?_⟩
  · rw [(counted time counter after).written small, List.map_inj_left]
    intro frame inside
    exact (shows frame (List.mem_range.mp inside)).1
  · rw [(shows frame (by omega)).2, (shows (frame + 1) next).2]
    exact single.round_next Number.single_proper (by decide) frame
  · rw [(shows early (by omega)).2, (shows late inside).2]
    exact single_round_later early late later

-- A shader that has been drawn for two frames more than a mantissa can count.
def longRun : List Act := List.replicate (2 ^ 24 + 2) (.frame ⟨1⟩)

theorem long_run_frames : longRun.countP (·.renders ⟨1⟩) = 2 ^ 24 + 2 := by
  rw [longRun, List.countP_replicate]
  rfl

theorem timed_gain_built : ∃ built, build "tint" ⟨1⟩ (gainOptions.withTimeUniform "time") (blank Panel.empty 0) =
    (.ok 0, built) := by
  have success : (build "tint" ⟨1⟩ (gainOptions.withTimeUniform "time") (blank Panel.empty 0)).1 = .ok 0 := by
    decide +kernel
  exact ⟨_, answer_pair _ _ success⟩

theorem timed_gain_counter (plan : Blueprint) (drawn : Blueprint.ofOptions (gainOptions.withTimeUniform "time") = .ok plan) :
    plan.counter = some "time" := by
  have counter : (Blueprint.ofOptions (gainOptions.withTimeUniform "time")).map (·.counter) = .ok (some "time") := by
    decide +kernel
  rw [drawn] at counter
  exact Except.ok.inj counter

theorem counter_stalls :
    ∃ built shader, build "tint" ⟨1⟩ (gainOptions.withTimeUniform "time") (blank Panel.empty 0) = (.ok 0, built) ∧
      built.shaders[0]? = some shader ∧
      let writes := (perform longRun built).engine.writesTo shader.material "time"
      let number : SlotValue := .float (.finite ⟨false, 2 ^ 23, 1, by decide⟩)
      writes[2 ^ 24]? = some number ∧ writes[2 ^ 24 + 1]? = some number := by
  obtain ⟨built, success⟩ := timed_gain_built
  obtain ⟨plan, shader, drawn, live, counted⟩ := built_counted Panel.empty 0 [] "tint" ⟨1⟩ _ 0 built success
  have written := (counted "time" (timed_gain_counter plan drawn) longRun).written
  rw [long_run_frames] at written
  refine ⟨built, shader, success, live, ?_, ?_⟩
  · rw [written (by decide), List.getElem?_map, List.getElem?_range (by decide)]
    decide +kernel
  · rw [written (by decide), List.getElem?_map, List.getElem?_range (by decide)]
    decide +kernel

theorem long_run_rises_once :
    ∃ built shader, build "tint" ⟨1⟩ (gainOptions.withTimeUniform "time") (blank Panel.empty 0) = (.ok 0, built) ∧
      built.shaders[0]? = some shader ∧ ∃ shown : ℕ → Finite single,
        (perform longRun built).engine.writesTo shader.material "time" =
          (List.range (2 ^ 24 + 2)).map (fun frame => .float (.finite (shown frame))) ∧
        (shown (2 ^ 24 - 1)).signed < (shown (2 ^ 24)).signed := by
  obtain ⟨built, success⟩ := timed_gain_built
  obtain ⟨plan, shader, drawn, live, rises⟩ := counter_never_falls Panel.empty 0 [] "tint" ⟨1⟩ _ 0 built success
  have frames := rises "time" (timed_gain_counter plan drawn) longRun
  rw [long_run_frames] at frames
  obtain ⟨shown, written, next, _⟩ := frames (by decide)
  exact ⟨built, shader, success, live, shown, written, (next (2 ^ 24 - 1) (by decide)).2.mpr (.inl (by decide))⟩

end Studio

end ShaderKnobs
