import ShaderKnobs.Proofs.Command.Nulls
import ShaderKnobs.Proofs.Command.Simulate
import ShaderKnobs.Proofs.Engine.History
import ShaderKnobs.Proofs.Studio.TimerBuild

set_option autoImplicit false

namespace ShaderKnobs.Simulation

open Studio

-- The bench when a run ends: there are no frames after an edit that is refused.
def lastBench (index : Nat) (edits : List Assignment) (frames : Nat) (bench : Bench) : Bench :=
  match applyEdits index edits bench with
  | (.ok _, after) => renderFrames scene frames after
  | (.error _, after) => after

theorem run_built (project : Project) (index : Nat) (bench : Bench)
    (success : build project.name scene project.options (Studio.start Engine.empty Panel.empty) = (.ok index, bench))
    (edits : List Assignment) (frames : Nat) :
    let last := lastBench index edits frames bench
    run project edits frames = (match (applyEdits index edits bench).1 with
      | .error cause => .error (.edit cause)
      | .ok _ => .ok ⟨project.name, last.engine.framesRendered scene, ((last.shaders[index]?).map (·.values)).getD []⟩,
      last.notices) := by
  simp only [run, success, lastBench]
  rcases applyEdits index edits bench with ⟨_ | _, after⟩ <;> rfl

-- A setting that one of the edits gives a uniform, before the first that does not fit.
inductive Taken (tunables : List Tunable) (t : Tunable) (setting : Setting) : List Assignment → Prop where
  | here (edit : Assignment) (rest : List Assignment) : t.name = edit.name → Reads t edit setting →
      Taken tunables t setting (edit :: rest)
  | later (edit : Assignment) (rest : List Assignment) : Fits tunables edit → Taken tunables t setting rest →
      Taken tunables t setting (edit :: rest)

theorem all_taken_iff (tunables : List Tunable) (names : (tunables.map (·.name)).Nodup) (edit : Assignment)
    (rest : List Assignment) (t : Tunable) (member : t ∈ tunables) (named : t.name = edit.name) (setting : Setting)
    (reads : Reads t edit setting) (P : Tunable → Setting → Prop) :
    (∀ other ∈ tunables, ∀ given, Taken tunables other given (edit :: rest) → P other given) ↔
      P t setting ∧ ∀ other ∈ tunables, ∀ given, Taken tunables other given rest → P other given := by
  constructor
  · intro all
    exact ⟨all t member setting (.here edit rest named reads), fun other present given taken =>
      all other present given (.later edit rest ⟨t, member, named, setting, reads⟩ taken)⟩
  · rintro ⟨first, others⟩ other present given taken
    cases taken with
    | here _ _ named' reads' =>
        obtain rfl : other = t := List.inj_on_of_nodup_map names present member (named'.trans named.symm)
        rw [reads'.unique reads]
        exact first
    | later _ _ _ taken => exact others other present given taken

theorem none_taken (tunables : List Tunable) (edit : Assignment) (rest : List Assignment)
    (misfit : ¬Fits tunables edit) (t : Tunable) (member : t ∈ tunables) (setting : Setting) :
    ¬Taken tunables t setting (edit :: rest) := by
  intro taken
  cases taken with
  | here _ _ named reads => exact misfit ⟨t, member, named, setting, reads⟩
  | later _ _ fits _ => exact misfit fits

def FiniteLog (bench : Bench) : Prop := ∀ write ∈ bench.engine.log.toList, write.value.Finite

theorem finite_log_write (before after : Bench) (write : SlotWrite)
    (log : after.engine.log.toList = before.engine.log.toList ++ [write]) :
    FiniteLog after ↔ FiniteLog before ∧ write.value.Finite := by
  simp only [FiniteLog, log, List.forall_mem_append, List.mem_singleton, forall_eq]

section

variable {plan : Blueprint} {wiring : Wiring} {done : List Assignment} {bench : Bench} {shader : LiveShader}

-- By induction on the edits: one that fits writes the value of its setting, and one that does not ends them.
theorem Stands.edits_finite_iff (stands : Stands plan wiring done bench shader) (fitted : Fitted plan wiring)
    (edits : List Assignment) :
    FiniteLog (applyEdits 0 edits bench).2 ↔ FiniteLog bench ∧
      ∀ t ∈ plan.tunables, ∀ setting, Taken plan.tunables t setting edits → t.knob.Within setting := by
  induction edits generalizing done bench shader with
  | nil => exact ⟨fun finite => ⟨finite, fun _ _ _ taken => (by cases taken)⟩, And.left⟩
  | cons edit rest ih =>
      by_cases fits : Fits plan.tunables edit
      · obtain ⟨t, member, named, setting, reads⟩ := fits
        have ⟨data, _, read⟩ := reads
        obtain ⟨value, written⟩ := t.knob.setting_accepted data setting read
        obtain ⟨id, taken, stands'⟩ := stands.fit_delivered fitted edit t member named setting reads value written
        let after := deliver 0 wiring.material t.name value (setControl id setting bench)
        have step : applyEdits 0 (edit :: rest) bench = applyEdits 0 rest after := by
          rw [applyEdits, taken]
        have log : after.engine.log.toList = bench.engine.log.toList ++ [⟨wiring.material, t.name, value⟩] :=
          Engine.log_write wiring.material t.name value bench.engine
        rw [step, ih stands', finite_log_write bench after _ log, t.knob.slot_value_finite_iff setting value written,
          and_assoc, all_taken_iff plan.tunables (names_distinct plan fitted.distinct) edit rest t member named setting reads
            fun t setting => t.knob.Within setting]
      · obtain ⟨cause, refused, _⟩ := stands.misfit_refused fitted edit fits
        have step : applyEdits 0 (edit :: rest) bench = (.error cause, bench) := by
          rw [applyEdits, refused]
        rw [step]
        exact ⟨fun finite => ⟨finite, fun t member setting taken =>
          absurd taken (none_taken plan.tunables edit rest fits t member setting)⟩, And.left⟩

end

theorem frames_finite_iff (counter : Option String) (material : MaterialHandle) (frames frame : Nat)
    (small : frame + frames ≤ 2 ^ 64) (bench : Bench) (shader : LiveShader) (shaders : bench.shaders = [shader])
    (hooks : bench.engine.hooks = counterHooks counter material frame) :
    FiniteLog (renderFrames scene frames bench) ↔ FiniteLog bench := by
  induction frames generalizing frame bench shader with
  | zero => rfl
  | succ frames ih =>
      obtain ⟨shaders', hooks', _⟩ := frame_counted counter material frame (by omega) bench shader shaders hooks
      refine (ih (frame + 1) (by omega) (renderFrame scene bench) _ shaders' hooks').trans ?_
      have log := (frame_wrote scene bench).log
      rw [hooks] at log
      cases counter with
      | none =>
          have same : (renderFrame scene bench).engine.log.toList = bench.engine.log.toList :=
            log.trans (List.append_nil _)
          rw [FiniteLog, same]
          rfl
      | some name =>
          rw [finite_log_write bench _ ⟨material, name, _⟩ log]
          refine and_iff_left ?_
          have word := (UInt64.ofNat frame).toNat_lt
          exact of_word_finite _ (by omega)

theorem built_finite_iff (plan : Blueprint) (shader : LiveShader) (material : Material) (built : Bench)
    (arrived : Arrived scene plan shader material (Studio.start Engine.empty Panel.empty) built) :
    FiniteLog built ↔ ∀ t ∈ plan.tunables, t.knob.Within t.initial := by
  have log : built.engine.log.toList =
      (firstValues plan).map fun entry => ⟨shader.material, entry.name, entry.current⟩ := arrived.log
  rw [FiniteLog, log, List.forall_mem_map]
  constructor
  · intro finite t member
    obtain ⟨value, written⟩ := t.initial_accepted
    rw [← t.knob.slot_value_finite_iff t.initial value written]
    exact finite ⟨t.name, .knob t.knob, value⟩ ((initial_values_iff plan.tunables _).mpr ⟨t, member, value, written, rfl⟩)
  · intro within entry first
    obtain ⟨t, member, value, written, rfl⟩ := (initial_values_iff plan.tunables entry).mp first
    exact (t.knob.slot_value_finite_iff t.initial value written).mpr (within t member)

/-- The settings that a run gives a uniform: its initial one, and those of the edits that are taken. -/
def Given (tunables : List Tunable) (edits : List Assignment) (t : Tunable) (setting : Setting) : Prop :=
  setting = t.initial ∨ Taken tunables t setting edits

theorem given_finite (tunables : List Tunable) (edits : List Assignment) (t : Tunable) (setting : Setting)
    (given : Given tunables edits t setting) : setting.Finite := by
  rcases given with rfl | taken
  · exact t.knob.initial_finite t.attributes
  · induction taken with
    | here edit rest named reads =>
        obtain ⟨data, _, read⟩ := reads
        exact t.knob.setting_finite data setting read
    | later edit rest fits _ ih => exact ih

theorem taken_of_member (tunables : List Tunable) (t : Tunable) (setting : Setting) (edits : List Assignment)
    (all : ∀ edit ∈ edits, Fits tunables edit) (edit : Assignment) (member : edit ∈ edits) (named : t.name = edit.name)
    (reads : Reads t edit setting) : Taken tunables t setting edits := by
  induction edits with
  | nil => cases member
  | cons first rest ih =>
      obtain ⟨fits, others⟩ := List.forall_mem_cons.mp all
      rcases List.mem_cons.mp member with rfl | later
      · exact .here edit rest named reads
      · exact .later first rest fits (ih others later)

theorem settled_given (tunables : List Tunable) (edits : List Assignment) (t : Tunable) (setting : Setting)
    (all : ∀ edit ∈ edits, Fits tunables edit) (settled : Settled edits t setting) :
    Given tunables edits t setting := by
  cases settled with
  | initial _ => exact .inl rfl
  | edited edit _ found reads =>
      obtain ⟨member, named⟩ := List.mem_filter.mp (List.mem_of_getLast? found)
      exact .inr (taken_of_member tunables t setting edits all edit member (of_decide_eq_true named).symm reads)

theorem rows_finite_iff (edits : List Assignment) (tunables : List Tunable) (rows : List UniformValue)
    (reported : List.Forall₂ (Reports edits) tunables rows) :
    (∀ v ∈ rows, v.current.Finite) ↔ ∀ t ∈ tunables, ∀ setting, Settled edits t setting → t.knob.Within setting := by
  induction reported with
  | nil => simp
  | cons reports _ ih =>
      obtain ⟨setting, settled, written⟩ := reports.value
      have range := Knob.slot_value_finite_iff _ setting _ written
      rw [List.forall_mem_cons, List.forall_mem_cons, ih, range]
      refine and_congr_left fun _ => ⟨fun within other settled' => ?_, fun all => all setting settled⟩
      rw [settled'.unique settled]
      exact within

theorem time_finite (frames : Nat) (small : frames ≤ 2 ^ 64) (name : String) :
    (timeRow frames name).current.Finite := by
  have counted : ∀ frame ≤ 2 ^ 64, (countedValue frame).Finite := by
    intro frame word
    exact of_word_finite frame (by omega)
  rw [timeRow]
  by_cases zero : frames = 0
  · rw [if_pos zero]
    exact counted 0 (by omega)
  · rw [if_neg zero]
    exact counted (frames - 1) (by omega)

section

variable {plan : Blueprint} {wiring : Wiring} {bench : Bench} {shader : LiveShader}

theorem Stands.last_finite_iff (stands : Stands plan wiring [] bench shader) (fitted : Fitted plan wiring)
    (edits : List Assignment) (frames : Nat) (small : frames ≤ 2 ^ 64) :
    FiniteLog (lastBench 0 edits frames bench) ↔ FiniteLog (applyEdits 0 edits bench).2 := by
  rcases stands.edits_end fitted edits with ⟨after, shader', _, taken, final⟩ | ⟨_, _, _, _, after, _, _, _, _, refused⟩
  · rw [lastBench, taken]
    exact frames_finite_iff plan.counter wiring.material frames 0 (by omega) after shader' final.shaders final.hooks
  · rw [lastBench, refused]

theorem Stands.null_shown_iff {edits : List Assignment} (stands : Stands plan wiring edits bench shader)
    (fitted : Fitted plan wiring) (frames : Nat) (small : frames ≤ 2 ^ 64) :
    let values := ((renderFrames scene frames bench).shaders[0]?.map (·.values)).getD []
    nullText ∈ (Document.array (values.map row)).leaves ↔
      ∃ t ∈ plan.tunables, ∃ setting, Settled edits t setting ∧ ¬t.knob.Within setting := by
  intro values
  obtain ⟨rows, table, reported, _⟩ := stands.rendered fitted frames small
  have whole : (∀ v ∈ values, v.current.Finite) ↔ ∀ v ∈ rows, v.current.Finite := by
    rw [show values = _ from table, List.forall_mem_append]
    refine and_iff_left fun v member => ?_
    obtain ⟨name, _, rfl⟩ := Option.map_eq_some_iff.mp (Option.mem_toList.mp member)
    exact time_finite frames small name
  rw [rows_finite_iff edits plan.tunables rows reported] at whole
  have either := not_congr whole
  simp only [not_forall, exists_prop] at either
  rw [Simulation.null_shown_iff, either]

end

/-- All numbers that a run of a built shader writes are finite if and only if all settings that it gives
to its uniforms are within the range of their knobs, and its data says `null` if and only if the last setting
of a uniform is not. The settings themselves are always finite. -/
theorem finite_run_iff_within (project : Project) (index : Nat) (built : Bench)
    (success : build project.name scene project.options (Studio.start Engine.empty Panel.empty) = (.ok index, built))
    (edits : List Assignment) (frames : UInt32) :
    let last := lastBench index edits frames.toNat built
    ∃ fragment tunables, project.options.fragment = some fragment ∧ Tunable.scan fragment = .ok tunables ∧
      (∀ t ∈ tunables, ∀ setting, Given tunables edits t setting → setting.Finite) ∧
      ((∀ write ∈ last.engine.log.toList, write.value.Finite) ↔
        ∀ t ∈ tunables, ∀ setting, Given tunables edits t setting → t.knob.Within setting) ∧
      ∀ simulation, (run project edits frames.toNat).1 = .ok simulation →
        (∀ t ∈ tunables, ∀ setting, Settled edits t setting → Given tunables edits t setting) ∧
        (nullText ∈ (Document.array (simulation.values.map row)).leaves ↔
          ∃ t ∈ tunables, ∃ setting, Settled edits t setting ∧ ¬t.knob.Within setting) := by
  intro last
  obtain ⟨rfl, plan, wiring, shader, drawn, fitted, stands⟩ := build_stands project.name project.options index built success
  obtain ⟨_, plan', _, _, drawn', arrived⟩ := build_arrived project.name scene project.options _ built 0 success
  obtain rfl := Except.ok.inj (drawn.symm.trans drawn')
  have parts := blueprint_drawn project.options plan drawn
  have small : frames.toNat ≤ 2 ^ 64 := by
    have := frames.toNat_lt
    omega
  have edited : FiniteLog (applyEdits 0 edits built).2 ↔
      ∀ t ∈ plan.tunables, ∀ setting, Given plan.tunables edits t setting → t.knob.Within setting := by
    rw [stands.edits_finite_iff fitted edits, built_finite_iff plan _ _ built arrived]
    simp only [Given, forall_eq_or_imp, forall_and]
  refine ⟨plan.fragment, plan.tunables, fragment_given parts, parts.scanned,
    fun t _ setting given => given_finite plan.tunables edits t setting given,
    (stands.last_finite_iff fitted edits frames.toNat small).trans edited, fun simulation ended => ?_⟩
  rw [run_built project 0 built success] at ended
  rcases stands.edits_end fitted edits with ⟨after, shader', all, taken, final⟩ | ⟨_, _, _, _, after, _, _, _, _, refused⟩
  · rw [lastBench, taken] at ended
    obtain rfl := Except.ok.inj ended
    exact ⟨fun t _ setting => settled_given plan.tunables edits t setting all,
      final.null_shown_iff fitted frames.toNat small⟩
  · rw [refused] at ended
    cases ended

theorem small_gain_finite :
    let project : Project := ⟨"tint", "tint.frag", gainOptions.withTimeUniform "time"⟩
    let edits : List Assignment := [⟨"gain", "3e38"⟩]
    let frames : UInt32 := 2
    ∃ tunables simulation, tunables.map (·.name) = ["gain"] ∧
      (∀ t ∈ tunables, ∀ setting, Given tunables edits t setting → t.knob.Within setting) ∧
      (run project edits frames.toNat).1 = .ok simulation ∧
      nullText ∉ (Document.array (simulation.values.map row)).leaves := by
  intro project edits frames
  let built := (build project.name scene project.options (Studio.start Engine.empty Panel.empty : Bench)).2
  have success : build project.name scene project.options (Studio.start Engine.empty Panel.empty) = (.ok 0, built) :=
    answer_pair _ _ (by decide +kernel)
  have finite : ∀ write ∈ (lastBench 0 edits frames.toNat built).engine.log.toList, write.value.Finite := by
    decide +kernel
  have shown : (run project edits frames.toNat).1.map (fun _ => ()) = .ok () := by
    decide +kernel
  have names : (project.options.fragment.map Tunable.scan).map (·.map (·.map (·.name))) = some (.ok ["gain"]) := by
    decide +kernel
  obtain ⟨fragment, tunables, given, scanned, _, all, null⟩ :=
    finite_run_iff_within project 0 built success edits frames
  rw [given, Option.map_some, Option.map_some, scanned] at names
  have within := all.mp finite
  cases ended : (run project edits frames.toNat).1 with
  | error error =>
      rw [ended] at shown
      cases shown
  | ok simulation =>
      refine ⟨tunables, simulation, Except.ok.inj (Option.some.inj names), within, rfl, fun none => ?_⟩
      obtain ⟨settings, null⟩ := null simulation ended
      obtain ⟨t, member, setting, settled, out⟩ := null.mp none
      exact out (within t member setting (settings t member setting settled))

theorem large_gain_infinite :
    let project : Project := ⟨"tint", "tint.frag", gainOptions⟩
    let edits : List Assignment := [⟨"gain", "1e39"⟩]
    let bench := (build project.name scene project.options (Studio.start Engine.empty Panel.empty : Bench)).2
    ⟨⟨2⟩, "gain", .float (.infinite false)⟩ ∈ (lastBench 0 edits 0 bench).engine.log.toList ∧
      (run project edits 0).1.map (fun s => s.values.map (·.current)) = .ok [.float (.infinite false)] ∧
      (run project edits 0).1.map (fun s => decide (nullText ∈ (Document.array (s.values.map row)).leaves)) = .ok true := by
  decide +kernel

end ShaderKnobs.Simulation
