import Mathlib.Data.List.Pairwise
import ShaderKnobs.Proofs.Studio.TimerBuild
import ShaderKnobs.Studio.Refusals

set_option autoImplicit false

namespace ShaderKnobs

namespace Studio

variable {P : Type}

structure Advances (t : Timer) (before after : Studio Engine P) : Prop where
  written : after.engine.writesTo t.material t.name =
    before.engine.writesTo t.material t.name ++ [(t.record before.engine).value]
  held : after.held t.shader t.name = (before.held t.shader t.name).map fun _ => (t.record before.engine).value

theorem Advances.frames {t : Timer} {before after : Studio Engine P} (advances : Advances t before after) :
    t.frames after.engine = t.frames before.engine + 1 := by
  rw [Timer.frames, advances.written, List.length_append]
  rfl

theorem Advances.counts {t : Timer} {before after : Studio Engine P} (advances : Advances t before after)
    (counts : Counts before t) : Counts after t where
  written := by
    rw [advances.written, advances.frames, counts.written, List.range_succ, List.map_append]
    rfl
  holds := by
    rw [advances.held, counts.holds, advances.frames, Nat.add_sub_cancel]
    rfl

theorem Rests.advances {t : Timer} {first second third : Studio Engine P} (early : Rests t first second)
    (late : Advances t second third) : Advances t first third := by
  obtain ⟨written, held⟩ := late
  rw [Timer.record, early.frames] at written held
  refine ⟨?_, ?_⟩
  · rw [written, early.written, Timer.record]
  · rw [held, early.held, Timer.record]

theorem Advances.rests {t : Timer} {first second third : Studio Engine P} (early : Advances t first second)
    (late : Rests t second third) : Advances t first third :=
  ⟨late.written.trans early.written, late.held.trans early.held⟩

def tick (studio : Studio Engine P) (t : Timer) : Studio Engine P :=
  { studio.updateShader t.shader (·.assign t.name (t.record studio.engine).value) with
    engine := studio.engine.write t.material t.name (t.record studio.engine).value }

theorem tick_advances (studio : Studio Engine P) (t : Timer) : Advances t studio (tick studio t) := by
  refine ⟨?_, ?_⟩
  · exact (studio.engine.writes_write t.material t.material t.name t.name _).trans
      (congrArg _ (if_pos ⟨rfl, rfl⟩))
  · exact (held_assign t.shader t.shader t.name t.name _ studio).trans (if_pos ⟨rfl, rfl⟩)

theorem tick_rests (studio : Studio Engine P) (t other : Timer) (apart : t.Apart other) :
    Rests other studio (tick studio t) := by
  refine ⟨?_, ?_⟩
  · refine (studio.engine.writes_write other.material t.material other.name t.name _).trans ?_
    rw [if_neg (fun same => apart.1 same.1.symm), List.append_nil]
  · exact (held_assign t.shader other.shader other.name t.name _ studio).trans (if_neg fun same => apart.2 same.1)

theorem run_hook_tick [EditHost P] (t : Timer) (studio : Studio Engine P) :
    runHook (t.hook studio.engine).2 studio = ((t.hook (tick studio t).engine).2, tick studio t) := by
  have number : (UInt64.ofNat (t.frames studio.engine)).toNat = t.frames studio.engine % 2 ^ 64 :=
    UInt64.toNat_ofNat' ..
  have next : UInt64.ofNat (t.frames studio.engine) + 1 = UInt64.ofNat (t.frames (tick studio t).engine) := by
    rw [(tick_advances studio t).frames]
    exact (UInt64.ofNat_add _ 1).symm
  simp only [runHook, Timer.hook]
  rw [number, next]
  rfl

theorem ticks_rest (ts : List Timer) (other : Timer) (studio : Studio Engine P) (apart : ∀ t ∈ ts, t.Apart other) :
    Rests other studio (ts.foldl tick studio) := by
  induction ts generalizing studio with
  | nil => exact ⟨rfl, rfl⟩
  | cons t rest ih =>
      have first := tick_rests studio t other (apart t List.mem_cons_self)
      exact first.trans (ih (tick studio t) fun t' member => apart t' (List.mem_cons_of_mem _ member))

-- The turns of different shaders do not meet: each writes what it would have written alone.
theorem ticks_once (ts : List Timer) (studio : Studio Engine P) (apart : ts.Pairwise Timer.Apart) :
    (∀ t ∈ ts, Advances t studio (ts.foldl tick studio)) ∧
      (ts.foldl tick studio).engine.log.toList =
        studio.engine.log.toList ++ ts.map (Timer.record studio.engine) := by
  induction ts generalizing studio with
  | nil => exact ⟨by simp, (List.append_nil _).symm⟩
  | cons t rest ih =>
      obtain ⟨first, others⟩ := List.pairwise_cons.mp apart
      obtain ⟨later, log⟩ := ih (tick studio t) others
      have rests : ∀ t' ∈ rest, Rests t' studio (tick studio t) :=
        fun t' member => tick_rests studio t t' (first t' member)
      refine ⟨?_, ?_⟩
      · intro t' member
        rcases List.mem_cons.mp member with rfl | later'
        · exact (tick_advances studio t').rests (ticks_rest rest t' _ fun t member => (first t member).symm)
        · exact (rests t' later').advances (later t' later')
      · have records : rest.map (Timer.record (tick studio t).engine) = rest.map (Timer.record studio.engine) := by
          rw [List.map_inj_left]
          intro t' member
          rw [Timer.record, Timer.record, (rests t' member).frames]
        have now : (tick studio t).engine.log.toList = studio.engine.log.toList ++ [t.record studio.engine] :=
          Engine.log_write ..
        rw [List.foldl_cons, log, records, now, List.append_assoc]
        rfl

theorem run_hooks_tick [EditHost P] (scene : SceneId) (ts : List Timer) (studio : Studio Engine P)
    (apart : ts.Pairwise Timer.Apart) :
    let after := (ts.filter (·.scene = scene)).foldl tick studio
    runHooks scene (ts.map (Timer.hook studio.engine)) studio = (ts.map (Timer.hook after.engine), after) := by
  induction ts generalizing studio with
  | nil => rfl
  | cons t rest ih =>
      obtain ⟨first, others⟩ := List.pairwise_cons.mp apart
      have pair : t.hook studio.engine = (t.scene, (t.hook studio.engine).2) := rfl
      have still : ∀ between : Studio Engine P,
          Rests t between ((rest.filter (·.scene = scene)).foldl tick between) := by
        intro between
        exact ticks_rest _ t between fun t' member => (first t' (List.mem_filter.mp member).1).symm
      rw [List.map_cons, pair, runHooks]
      by_cases here : t.scene = scene
      · have same := hooks_rest rest studio (tick studio t) fun t' member => tick_rests studio t t' (first t' member)
        rw [if_pos here, run_hook_tick, ← same, List.filter_cons_of_pos (by simpa using here)]
        dsimp only
        rw [ih (tick studio t) others, List.foldl_cons, List.map_cons, Timer.hook, Timer.hook, (still _).frames]
      · rw [if_neg here, ih studio others, List.filter_cons_of_neg (by simpa using here)]
        dsimp only
        rw [List.map_cons, Timer.hook, Timer.hook, (still _).frames]

theorem ticks_kept (ts : List Timer) (studio : Studio Engine P) :
    let after := ts.foldl tick studio
    after.wirings = studio.wirings ∧ after.engine.materials = studio.engine.materials ∧
      after.engine.lastHandle = studio.engine.lastHandle := by
  induction ts generalizing studio with
  | nil => exact ⟨rfl, rfl, rfl⟩
  | cons t rest ih =>
      obtain ⟨wirings, materials, lastHandle⟩ := ih (tick studio t)
      have kept : (tick studio t).wirings = studio.wirings :=
        wirings_update t.shader _ studio (LiveShader.wiring_assign t.name _)
      exact ⟨wirings.trans kept, materials, lastHandle⟩

structure Framed (scene : SceneId) (before after : Studio Engine P) : Prop where
  clocked : Clocked after
  timers : after.timers = before.timers
  log : after.engine.log.toList = before.engine.log.toList ++
    (before.timers.filter (·.scene = scene)).map (Timer.record before.engine)
  ticks : ∀ t ∈ before.timers, t.scene = scene → Advances t before after
  rests : ∀ t ∈ before.timers, t.scene ≠ scene → Rests t before after

theorem frame_framed [EditHost P] (scene : SceneId) (studio : Studio Engine P) (clocked : Clocked studio) :
    Framed scene studio (renderFrame scene studio) := by
  have apart := timers_apart studio clocked.apart
  let due := studio.timers.filter (·.scene = scene)
  let ticked := due.foldl tick studio
  let after : Studio Engine P :=
    { ticked with engine := ticked.engine.endFrame scene (studio.timers.map (Timer.hook ticked.engine)) }
  have rendered : renderFrame scene studio = after := by
    have ran := run_hooks_tick scene studio.timers studio apart
    rw [← clocked.hooks] at ran
    have installed : FrameHost.hooks studio.engine = studio.engine.hooks := rfl
    rw [renderFrame, installed, ran]
    rfl
  rw [rendered]
  obtain ⟨advances, log⟩ := ticks_once due studio (apart.filter _)
  obtain ⟨(wirings : after.wirings = studio.wirings), (materials : after.engine.materials = studio.engine.materials),
    (lastHandle : after.engine.lastHandle = studio.engine.lastHandle)⟩ := ticks_kept due studio
  have logged : after.engine.log.toList = studio.engine.log.toList ++ due.map (Timer.record studio.engine) := log
  have timers : after.timers = studio.timers := timers_same studio after wirings materials
  have ticks : ∀ t ∈ studio.timers, t.scene = scene → Advances t studio after := by
    intro t member here
    obtain ⟨written, held⟩ := advances t (List.mem_filter.mpr ⟨member, by simpa using here⟩)
    exact ⟨written, held⟩
  have rests : ∀ t ∈ studio.timers, t.scene ≠ scene → Rests t studio after := by
    intro t member elsewhere
    have still : Rests t studio ticked := by
      refine ticks_rest due t studio fun t' member' => ?_
      obtain ⟨present, here⟩ := List.mem_filter.mp member'
      refine apart.forall present member ?_
      rintro rfl
      exact elsewhere (by simpa using here)
    exact ⟨still.written, still.held⟩
  refine ⟨⟨?_, ?_, ?_, ?_, ?_, ?_, ?_⟩, timers, logged, ticks, rests⟩
  · rw [wirings]
    exact clocked.declared
  · rw [wirings, lastHandle]
    exact clocked.issued
  · rw [wirings]
    exact clocked.apart
  · rw [materials, lastHandle]
    exact clocked.recorded
  · intro write member
    rw [lastHandle]
    rw [logged] at member
    rcases List.mem_append.mp member with old | new
    · exact clocked.logged write old
    · obtain ⟨t, member', rfl⟩ := List.mem_map.mp new
      obtain ⟨wiring, _, wired, material, _⟩ := (mem_timers studio t).mp (List.mem_filter.mp member').1
      have issued := clocked.issued wiring (List.mem_of_getElem? wired)
      rw [material] at issued
      exact issued
  · rw [timers]
    rfl
  · intro t member
    rw [timers] at member
    by_cases here : t.scene = scene
    · exact (ticks t member here).counts (clocked.counts t member)
    · exact (rests t member here).counts (clocked.counts t member)

def blank (panel : P) (lastProgram : Nat) : Studio Engine P :=
  { Studio.start Engine.empty panel with lastProgram := lastProgram }

def Act.renders (scene : SceneId) : Act → Bool
  | .frame other => other = scene
  | _ => false

theorem blank_clocked (panel : P) (lastProgram : Nat) : Clocked (blank panel lastProgram) where
  declared _ member := by cases member
  issued _ member := by cases member
  apart := List.nodup_nil
  recorded _ member := by cases member
  logged _ member := by cases member
  hooks := rfl
  counts _ member := by cases member

-- What an act is to a counter: a tick if it is a frame of its scene, else nothing.
structure Passes (next : Act) (t : Timer) (before after : Studio Engine P) : Prop where
  kept : t ∈ after.timers
  ticks : next.renders t.scene = true → Advances t before after
  rests : next.renders t.scene = false → Rests t before after

theorem Unticked.passes {before after : Studio Engine P} (unticked : Unticked before after) (next : Act)
    (silent : ∀ scene, next.renders scene = false) (t : Timer) (member : t ∈ before.timers) :
    Passes next t before after where
  kept := by
    rw [unticked.timers]
    exact member
  ticks rendered := by
    rw [silent] at rendered
    cases rendered
  rests _ := unticked.rests t member

structure CountedTo (frames : Nat) (t : Timer) (studio : Studio Engine P) : Prop where
  built : t ∈ studio.timers
  total : (studio.engine.writesTo t.material t.name).length = frames
  written : frames < 2 ^ 64 → studio.engine.writesTo t.material t.name = (List.range frames).map frameValue
  held : studio.held t.shader t.name =
    some (((studio.engine.writesTo t.material t.name).getLast?).getD (frameValue 0))
  hook : (t.scene, .counter t.shader t.material t.name (UInt64.ofNat frames)) ∈ studio.engine.hooks

theorem Clocked.counted {studio : Studio Engine P} (clocked : Clocked studio) (t : Timer) (member : t ∈ studio.timers)
    (frames : Nat) (total : t.frames studio.engine = frames) : CountedTo frames t studio := by
  obtain ⟨written, holds⟩ := clocked.counts t member
  rw [total] at written holds
  refine ⟨member, total, fun small => ?_, ?_, ?_⟩
  · rw [written, List.map_inj_left]
    intro frame below
    rw [Nat.mod_eq_of_lt (Nat.lt_trans (List.mem_range.mp below) small)]
  · rw [holds, written]
    cases frames with
    | zero => rfl
    | succ frames =>
        rw [List.range_succ, List.map_append, List.map_singleton, List.getLast?_concat]
        rfl
  · rw [clocked.hooks, ← total]
    exact List.mem_map_of_mem member

section

variable [EditHost P]

theorem step_passes (studio : Studio Engine P) (clocked : Clocked studio) (next : Act) :
    Clocked (step studio next) ∧ ∀ t ∈ studio.timers, Passes next t studio (step studio next) := by
  cases next with
  | build name scene options =>
      cases result : build name scene options studio with
      | mk answer after =>
          rw [step, result]
          cases answer with
          | error error =>
              have unticked := refused_unticked name scene options studio after error result
              exact ⟨unticked.clocked clocked, unticked.passes _ fun _ => rfl⟩
          | ok index =>
              obtain ⟨_, plan, shader, material, _, arrived⟩ := build_arrived name scene options studio after index result
              refine ⟨arrived.clocked clocked, fun t member => ⟨?_, ?_, fun _ => arrived.rests clocked t member⟩⟩
              · rw [arrived.timers clocked]
                exact List.mem_append_left _ member
              · exact fun rendered => by cases rendered
  | edit control setting =>
      have unticked := edit_unticked control setting studio clocked.declared clocked.apart
      exact ⟨unticked.clocked clocked, unticked.passes _ fun _ => rfl⟩
  | frame scene =>
      have framed := frame_framed scene studio clocked
      refine ⟨framed.clocked, fun t member => ⟨?_, fun here => ?_, fun elsewhere => ?_⟩⟩
      · rw [step, framed.timers]
        exact member
      · exact framed.ticks t member (of_decide_eq_true here).symm
      · exact framed.rests t member (Ne.symm (of_decide_eq_false elsewhere))
  | dispose all shader =>
      have unticked := dispose_unticked true all shader studio
      exact ⟨unticked.clocked clocked, unticked.passes _ fun _ => rfl⟩

theorem perform_counts (acts : List Act) (studio : Studio Engine P) (clocked : Clocked studio) :
    let after := perform acts studio
    Clocked after ∧ ∀ t ∈ studio.timers, t ∈ after.timers ∧
      t.frames after.engine = t.frames studio.engine + acts.countP (·.renders t.scene) := by
  induction acts generalizing studio with
  | nil => exact ⟨clocked, fun t member => ⟨member, rfl⟩⟩
  | cons next rest ih =>
      obtain ⟨now, passes⟩ := step_passes studio clocked next
      obtain ⟨later, counted⟩ := ih (step studio next) now
      refine ⟨later, fun t member => ?_⟩
      obtain ⟨kept, ticks, rests⟩ := passes t member
      obtain ⟨kept', frames⟩ := counted t kept
      refine ⟨kept', frames.trans ?_⟩
      rw [List.countP_cons]
      cases renders : next.renders t.scene with
      | true =>
          rw [(ticks renders).frames]
          simp
          omega
      | false =>
          rw [(rests renders).frames]
          simp

theorem counters_count_frames (panel : P) (lastProgram : Nat) :
    -- A frame writes one record for each counter of its scene.
    (∀ acts scene,
      let studio := perform acts (blank panel lastProgram)
      (renderFrame scene studio).engine.log.toList = studio.engine.log.toList ++
        (studio.timers.filter (·.scene = scene)).map (Timer.record studio.engine)) ∧
    -- A counter tells how many frames of its scene there have been since the build, and nothing else moves it.
    ∀ before name scene options index built,
      build name scene options (perform before (blank panel lastProgram)) = (.ok index, built) →
      ∃ plan shader, Blueprint.ofOptions options = .ok plan ∧ built.shaders[index]? = some shader ∧
        ∀ time, plan.counter = some time → ∀ after,
          let t : Timer := ⟨scene, index, shader.material, time⟩
          let studio := perform after built
          CountedTo (after.countP (·.renders scene)) t studio ∧
            ∀ next : Act, next.renders scene = false → Rests t studio (step studio next) := by
  refine ⟨fun acts scene => ?_, ?_⟩
  · exact (frame_framed scene _ (perform_counts acts _ (blank_clocked panel lastProgram)).1).log
  intro before name scene options index built success
  have clocked := (perform_counts before _ (blank_clocked panel lastProgram)).1
  obtain ⟨rfl, plan, shader, material, drawn, arrived⟩ := build_arrived name scene options _ built index success
  refine ⟨plan, shader, drawn, ?_, fun time counter after => ?_⟩
  · rw [arrived.shaders]
    simp
  let t : Timer := ⟨scene, (perform before (blank panel lastProgram)).shaders.length, shader.material, time⟩
  have new : newTimer? scene plan shader (perform before (blank panel lastProgram)).shaders.length = some t :=
    congrArg (Option.map _) counter
  have member : t ∈ built.timers := by
    rw [arrived.timers clocked, new]
    exact List.mem_append_right _ List.mem_cons_self
  obtain ⟨later, counted⟩ := perform_counts after built (arrived.clocked clocked)
  obtain ⟨kept, frames⟩ := counted t member
  rw [(arrived.starts clocked t new).1, Nat.zero_add] at frames
  refine ⟨later.counted t kept _ frames, fun next silent => ?_⟩
  exact ((step_passes _ later next).2 t kept).rests silent

end

-- A panel that binds the control of `gain` to the key of the frame counter, whose edits all miss.
def mistakenPanel : WaryPanel := ⟨Panel.empty, { Refusals.none with renamed := [("gain", "time")] }⟩

theorem mistaken_edits_leave_time_alone :
    let options := gainOptions.withTimeUniform "time"
    ∃ built shader, build "tint" ⟨1⟩ options (blank mistakenPanel 0) = (.ok 0, built) ∧
      built.shaders[0]? = some shader ∧
      let studio := perform [.frame ⟨1⟩, .edit ⟨2⟩ (.int 7), .frame ⟨2⟩, .dispose false 0, .frame ⟨1⟩] built
      studio.engine.writesTo shader.material "time" = [frameValue 0, frameValue 1] ∧
        studio.held 0 "time" = some (frameValue 1) := by
  intro options
  have success : (build "tint" ⟨1⟩ options (blank mistakenPanel 0)).1 = .ok 0 := by
    decide +kernel
  have counter : (Blueprint.ofOptions options).map (·.counter) = .ok (some "time") := by
    decide +kernel
  obtain ⟨built, whole⟩ : ∃ built, build "tint" ⟨1⟩ options (blank mistakenPanel 0) = (.ok 0, built) :=
    ⟨_, answer_pair _ _ success⟩
  obtain ⟨plan, shader, drawn, live, counts⟩ :=
    (counters_count_frames mistakenPanel 0).2 [] "tint" ⟨1⟩ options 0 built whole
  rw [drawn] at counter
  obtain ⟨counted, _⟩ := counts "time" (Except.ok.inj counter)
    [.frame ⟨1⟩, .edit ⟨2⟩ (.int 7), .frame ⟨2⟩, .dispose false 0, .frame ⟨1⟩]
  have written := counted.written (by decide)
  have held := counted.held
  rw [written] at held
  exact ⟨built, shader, whole, live, written, held⟩

end Studio

end ShaderKnobs
