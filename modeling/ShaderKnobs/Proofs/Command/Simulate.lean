import Mathlib.Data.List.Forall2
import ShaderKnobs.Command.Run
import ShaderKnobs.Proofs.Command.Bench
import ShaderKnobs.Proofs.Command.Printed

set_option autoImplicit false

namespace ShaderKnobs

theorem LiveShader.assign_twice (name : String) (first second : SlotValue) (shader : LiveShader) :
    (shader.assign name first).assign name second = shader.assign name second := by
  simp only [assign, ValueTable.assign, List.map_map]
  congr 1
  refine List.map_congr_left fun entry _ => ?_
  simp only [Function.comp_apply]
  by_cases here : entry.name = name
  · simp only [if_pos here]
  · simp only [if_neg here]

theorem Engine.count_of_count_up (scene : SceneId) (frames : List (SceneId × Nat)) :
    countOf scene (countUp scene frames) = countOf scene frames + 1 := by
  induction frames with
  | nil => simp [countUp, countOf]
  | cons entry rest ih =>
      by_cases here : scene = entry.1
      · simp [countUp, countOf, here]
      · simp [countUp, countOf, here, ih]

namespace Simulation

open Studio

def counterHooks (counter : Option String) (material : MaterialHandle) (frame : Nat) : List (SceneId × FrameHook) :=
  (counter.map fun name => (scene, FrameHook.counter 0 material name (UInt64.ofNat frame))).toList

def countedValue (frame : Nat) : SlotValue := .float (Number.Binary.ofInt Number.single frame)

def counted (counter : Option String) (frame : Nat) (shader : LiveShader) : LiveShader :=
  match counter with
  | none => shader
  | some name => shader.assign name (countedValue frame)

theorem counted_twice (counter : Option String) (first second : Nat) (shader : LiveShader) :
    counted counter second (counted counter first shader) = counted counter second shader := by
  cases counter with
  | none => rfl
  | some name => exact shader.assign_twice name _ _

theorem frame_counted (counter : Option String) (material : MaterialHandle) (frame : Nat) (small : frame < 2 ^ 64)
    (bench : Bench) (shader : LiveShader) (shaders : bench.shaders = [shader])
    (hooks : bench.engine.hooks = counterHooks counter material frame) :
    let after := renderFrame scene bench
    after.shaders = [counted counter frame shader] ∧ after.engine.hooks = counterHooks counter material (frame + 1) ∧
      after.engine.framesRendered scene = bench.engine.framesRendered scene + 1 := by
  intro after
  have rendered : after = { (runHooks scene bench.engine.hooks bench).2 with
      engine := (runHooks scene bench.engine.hooks bench).2.engine.endFrame scene
        (runHooks scene bench.engine.hooks bench).1 } := rfl
  rw [hooks] at rendered
  cases counter with
  | none =>
      rw [rendered]
      exact ⟨shaders, rfl, Engine.count_of_count_up scene bench.engine.frames⟩
  | some name =>
      have number : (UInt64.ofNat frame).toNat = frame := UInt64.toNat_ofNat_of_lt' small
      have next : UInt64.ofNat frame + 1 = UInt64.ofNat (frame + 1) := (UInt64.ofNat_add frame 1).symm
      have ran : runHooks scene (counterHooks (some name) material frame) bench =
          ([(scene, .counter 0 material name (UInt64.ofNat frame + 1))],
            deliver 0 material name (.float (Number.Binary.ofInt Number.single (UInt64.ofNat frame).toNat)) bench) := rfl
      rw [ran, number, next] at rendered
      rw [rendered]
      refine ⟨?_, rfl, Engine.count_of_count_up scene bench.engine.frames⟩
      simp only [deliver, shaders]
      rfl

-- `frame` frames have been counted already.
theorem frames_counted (counter : Option String) (material : MaterialHandle) (frames frame : Nat)
    (small : frame + frames ≤ 2 ^ 64) (bench : Bench) (shader : LiveShader) (shaders : bench.shaders = [shader])
    (hooks : bench.engine.hooks = counterHooks counter material frame) :
    (renderFrames scene frames bench).shaders =
        [if frames = 0 then shader else counted counter (frame + frames - 1) shader] ∧
      (renderFrames scene frames bench).engine.framesRendered scene = bench.engine.framesRendered scene + frames := by
  induction frames generalizing frame bench shader with
  | zero => exact ⟨shaders, rfl⟩
  | succ frames ih =>
      obtain ⟨shaders', hooks', rendered⟩ := frame_counted counter material frame (by omega) bench shader shaders hooks
      obtain ⟨shaders'', rendered'⟩ := ih (frame + 1) (by omega) (renderFrame scene bench) _ shaders' hooks'
      refine ⟨shaders''.trans ?_, rendered'.trans ?_⟩
      · rw [if_neg (Nat.succ_ne_zero frames)]
        cases frames with
        | zero => rfl
        | succ n =>
            rw [if_neg (Nat.succ_ne_zero n), counted_twice]
            congr 2
            omega
      · omega

def timeRow (frames : Nat) (name : String) : UniformValue :=
  ⟨name, .frameCounter, if frames = 0 then countedValue 0 else countedValue (frames - 1)⟩

structure Reports (edits : List Assignment) (t : Tunable) (row : UniformValue) : Prop where
  name : row.name = t.name
  source : row.source = .knob t.knob
  value : ∃ setting, Settled edits t setting ∧ t.knob.slotValue? setting = some row.current

theorem forall_of_map_eq {α β γ : Type} {f : α → γ} {g : β → γ} {R : α → β → Prop} (xs : List α) (ys : List β)
    (same : xs.map f = ys.map g) (each : ∀ x ∈ xs, ∀ y ∈ ys, f x = g y → R x y) : List.Forall₂ R xs ys := by
  induction xs generalizing ys with
  | nil =>
      obtain rfl := List.map_eq_nil_iff.mp same.symm
      exact .nil
  | cons x xs ih =>
      cases ys with
      | nil => cases same
      | cons y ys =>
          obtain ⟨first, others⟩ := List.cons.inj same
          refine .cons (each x List.mem_cons_self y List.mem_cons_self first) (ih ys others ?_)
          exact fun x' member y' member' => each x' (List.mem_cons_of_mem _ member) y' (List.mem_cons_of_mem _ member')

theorem Settled.unique {edits : List Assignment} {t : Tunable} {one two : Setting} (first : Settled edits t one)
    (second : Settled edits t two) : one = two := by
  cases first with
  | initial none =>
      cases second with
      | initial _ => rfl
      | edited edit _ found _ =>
          rw [none] at found
          cases found
  | edited edit _ found reads =>
      cases second with
      | initial none =>
          rw [none] at found
          cases found
      | edited edit' _ found' reads' =>
          obtain rfl := Option.some.inj (found.symm.trans found')
          exact reads.unique reads'

-- The row of a uniform after edits, by the row that an inspection has for it.
def editedRow? (edits : List Assignment) (shown : Inspect.Row) : Option UniformValue := do
  let setting ← match lastEdit edits shown.name with
    | none => some shown.initial
    | some edit => (Literal.parse edit.literal).toOption.bind shown.kind.setting?
  let value ← shown.kind.slotValue? setting
  return ⟨shown.name, .knob shown.kind, value⟩

theorem Reports.edited {edits : List Assignment} {t : Tunable} {row : UniformValue} (reports : Reports edits t row) :
    editedRow? edits (.ofTunable t) = some row := by
  obtain ⟨setting, settled, written⟩ := reports.value
  have whole : row = ⟨t.name, .knob t.knob, row.current⟩ := by
    rw [← reports.name, ← reports.source]
  rw [whole]
  cases settled with
  | initial none => simp [editedRow?, Inspect.Row.ofTunable, none, written]
  | edited edit _ found reads =>
      obtain ⟨data, literal, read⟩ := reads
      simp [editedRow?, Inspect.Row.ofTunable, found, literal, Except.toOption, read, written]

theorem rows_edited {edits : List Assignment} {tunables : List Tunable} {rows : List UniformValue}
    (reported : List.Forall₂ (Reports edits) tunables rows) :
    (tunables.map Inspect.Row.ofTunable).map (editedRow? edits) = rows.map some := by
  induction reported with
  | nil => rfl
  | cons reports _ ih => simp only [List.map_cons, reports.edited, ih]

theorem counted_heads (counter : Option String) (frame : Nat) (shader : LiveShader) :
    ValueTable.heads (counted counter frame shader).values = ValueTable.heads shader.values := by
  cases counter with
  | none => rfl
  | some name => exact ValueTable.heads_assign name _ shader.values

theorem counted_other (counter : Option String) (frame : Nat) (shader : LiveShader) (name : String)
    (apart : counter ≠ some name) : (counted counter frame shader).value? name = shader.value? name := by
  cases counter with
  | none => rfl
  | some time =>
      have different : name ≠ time := fun same => apart (congrArg some same.symm)
      rw [counted, LiveShader.value_assign, if_neg different]

section

variable {plan : Blueprint} {wiring : Wiring} {done : List Assignment} {bench : Bench} {shader : LiveShader}

theorem Stands.rows (stands : Stands plan wiring done bench shader) (fitted : Fitted plan wiring) (values : ValueTable)
    (heads : ValueTable.heads values = plan.heads) (frames : Nat)
    (annotated : ∀ t ∈ plan.tunables, (ValueTable.get? t.name values).map (·.current) = shader.value? t.name)
    (time : ∀ name, plan.counter = some name →
      (ValueTable.get? name values).map (·.current) = some (timeRow frames name).current) :
    ∃ rows, values = rows ++ (plan.counter.map (timeRow frames)).toList ∧
      List.Forall₂ (Reports done) plan.tunables rows := by
  have names : (values.map (·.name)).Nodup := by
    rw [← ValueTable.heads_names, heads]
    exact fitted.distinct
  obtain ⟨rows, last, rfl, first, second⟩ := List.map_eq_append_iff.mp heads
  have current : ∀ row ∈ rows ++ last, (ValueTable.get? row.name (rows ++ last)).map (·.current) = some row.current := by
    intro row member
    rw [ValueTable.get_of_member _ row names member]
    rfl
  refine ⟨rows, congrArg (rows ++ ·) ?_, ?_⟩
  · cases counter : plan.counter with
    | none =>
        rw [counter] at second
        exact List.map_eq_nil_iff.mp second
    | some name =>
        rw [counter] at second
        obtain ⟨row, rfl, same⟩ := List.map_eq_singleton_iff.mp second
        obtain ⟨named, source⟩ := Prod.mk.inj same
        have value := current row (by simp)
        rw [show row.name = name from named, time name counter] at value
        rw [show row = ⟨row.name, row.source, row.current⟩ from rfl, show row.name = name from named,
          show row.source = .frameCounter from source, ← Option.some.inj value]
        rfl
  · refine forall_of_map_eq plan.tunables rows first.symm fun t member row present same => ?_
    obtain ⟨named, source⟩ := Prod.mk.inj same
    obtain ⟨setting, value, settled, accepted, held⟩ := stands.settled t member
    have value' := current row (List.mem_append_left _ present)
    rw [← named, annotated t member, held] at value'
    exact ⟨named.symm, source.symm, setting, settled, accepted.trans value'⟩

theorem Stands.rendered (stands : Stands plan wiring done bench shader) (fitted : Fitted plan wiring) (frames : Nat)
    (small : frames ≤ 2 ^ 64) :
    ∃ rows, ((renderFrames scene frames bench).shaders[0]?.map (·.values)).getD [] =
        rows ++ (plan.counter.map (timeRow frames)).toList ∧
      List.Forall₂ (Reports done) plan.tunables rows ∧
      (renderFrames scene frames bench).engine.framesRendered scene = frames := by
  obtain ⟨shaders, rendered⟩ := frames_counted plan.counter wiring.material frames 0 (by omega) bench shader stands.shaders
    stands.hooks
  have none : bench.engine.framesRendered scene = 0 := by
    rw [Engine.framesRendered, stands.frames]
    rfl
  rw [none, Nat.zero_add] at rendered
  rw [Nat.zero_add] at shaders
  have heads : ValueTable.heads shader.values = plan.heads := by
    rw [← fitted.heads, ← stands.wired]
    rfl
  rw [shaders]
  refine Exists.imp (fun rows both => ⟨both.1, both.2, rendered⟩) (stands.rows fitted _ ?_ frames ?_ ?_)
  · by_cases zero : frames = 0
    · simpa [zero] using heads
    · simpa [zero, counted_heads] using heads
  · intro t member
    have apart : plan.counter ≠ some t.name := by
      intro counter
      cases head_unique plan.heads t.name _ _ fitted.distinct (plan.tunable_head t member)
        (plan.counter_head t.name counter)
    by_cases zero : frames = 0
    · simp [zero, LiveShader.value?]
    · have same := counted_other plan.counter (frames - 1) shader t.name apart
      simpa [zero, LiveShader.value?] using same
  · intro name counter
    have initial := stands.counter name counter
    by_cases zero : frames = 0
    · simpa [zero, timeRow, countedValue, LiveShader.value?] using initial
    · have written : (counted plan.counter (frames - 1) shader).value? name = some (countedValue (frames - 1)) := by
        rw [counter, counted, LiveShader.value_assign, if_pos rfl, initial]
        rfl
      simpa [zero, timeRow, LiveShader.value?] using written

end

theorem fragment_given {options : Options} {plan : Blueprint} (parts : Drawn options plan) :
    options.fragment = some plan.fragment := by
  have given := parts.fragment
  cases source : options.fragment with
  | none =>
      rw [source] at given
      cases given
  | some text =>
      rw [source, requireSource] at given
      split at given
      · cases given
      · rw [Except.ok.inj given]

-- How a simulation of a shader that has been built ends.
inductive SimulationEnd (project : Project) (tunables : List Tunable) (edits : List Assignment) (frames : Nat) :
    Except SimulationError Simulation → Prop where
  | finished (rows : List UniformValue) : (∀ edit ∈ edits, Fits tunables edit) →
      (tunables.map Inspect.Row.ofTunable).map (editedRow? edits) = rows.map some →
      SimulationEnd project tunables edits frames (.ok ⟨project.name, frames,
        rows ++ (project.options.counterName?.map (timeRow frames)).toList⟩)
  | refused (front back : List Assignment) (edit : Assignment) (cause : EditError) : edits = front ++ edit :: back →
      (∀ early ∈ front, Fits tunables early) → ¬Fits tunables edit → Faulty tunables edit cause →
      SimulationEnd project tunables edits frames (.error (.edit cause))

theorem simulation_end (project : Project) (index : Nat) (bench : Bench)
    (success : build project.name scene project.options (Studio.start Engine.empty Panel.empty) = (.ok index, bench)) :
    ∃ fragment tunables, project.options.fragment = some fragment ∧ Tunable.scan fragment = .ok tunables ∧
      ∀ (edits : List Assignment) (frames : Nat), frames ≤ 2 ^ 64 →
        SimulationEnd project tunables edits frames (run project edits frames).1 := by
  obtain ⟨rfl, plan, wiring, shader, drawn, fitted, stands⟩ := build_stands project.name project.options index bench success
  have parts := blueprint_drawn project.options plan drawn
  refine ⟨plan.fragment, plan.tunables, fragment_given parts, parts.scanned, fun edits frames small => ?_⟩
  simp only [run, success]
  rcases stands.edits_end fitted edits with ⟨after, shader', all, taken, final⟩ |
    ⟨front, edit, back, cause, after, split, early, misfit, fault, refused⟩
  · obtain ⟨rows, values, reported, rendered⟩ := final.rendered fitted frames small
    simp only [taken]
    rw [values, rendered, parts.counter]
    exact .finished rows all (rows_edited reported)
  · simp only [refused]
    exact .refused front back edit cause split early misfit fault

section

variable {project : Project} {tunables : List Tunable} {edits others : List Assignment} {frames : Nat}
  {answer answer' : Except SimulationError Simulation}

theorem SimulationEnd.finished_iff (ending : SimulationEnd project tunables edits frames answer) :
    (∃ simulation, answer = .ok simulation) ↔ ∀ edit ∈ edits, Fits tunables edit := by
  cases ending with
  | finished rows all _ => exact ⟨fun _ => all, fun _ => ⟨_, rfl⟩⟩
  | refused front back edit cause split _ misfit _ =>
      have member : edit ∈ edits := split ▸ List.mem_append_right front List.mem_cons_self
      exact ⟨fun ⟨_, success⟩ => (by cases success), fun all => absurd (all edit member) misfit⟩

theorem edited_rows_same (same : ∀ name, lastEdit edits name = lastEdit others name) :
    editedRow? edits = editedRow? others := by
  funext shown
  rw [editedRow?, editedRow?, same]

theorem SimulationEnd.order (same : ∀ name, edits.filter (·.name = name) = others.filter (·.name = name))
    (first : SimulationEnd project tunables edits frames answer)
    (second : SimulationEnd project tunables others frames answer') : answer.toOption = answer'.toOption := by
  have shared : ∀ edit, edit ∈ edits ↔ edit ∈ others := by
    intro edit
    have here : ∀ some : List Assignment, edit ∈ some ↔ edit ∈ some.filter (·.name = edit.name) := by simp
    rw [here edits, here others, same]
  have both : (∃ simulation, answer = .ok simulation) ↔ ∃ simulation, answer' = .ok simulation := by
    rw [first.finished_iff, second.finished_iff]
    exact forall_congr' fun edit => by rw [shared]
  cases first with
  | finished rows all edited =>
      cases second with
      | finished rows' _ edited' =>
          rw [edited_rows_same fun name => congrArg List.getLast? (same name)] at edited
          have rows : rows = rows' :=
            List.map_injective_iff.mpr (fun _ _ => Option.some.inj) (edited.symm.trans edited')
          rw [rows]
      | refused _ _ _ _ _ _ _ _ => cases (both.mp ⟨_, rfl⟩).choose_spec
  | refused _ _ _ _ _ _ _ _ =>
      cases second with
      | finished _ _ _ => cases (both.mpr ⟨_, rfl⟩).choose_spec
      | refused _ _ _ _ _ _ _ _ => rfl

end

theorem simulation_printed (project : Project) (edits : List Assignment) (frames : Nat) (asData : Bool) :
    (Request.simulateProject edits frames asData (.ok project)).result =
      ((run project edits frames).1.mapError .simulation).map fun s => printed asData s.name s.frames s.values := by
  have texts : report asData = fun s => printed asData s.name s.frames s.values := funext (report_printed asData)
  rw [← texts]
  rfl

theorem simulate_last_edit_wins (project : Project) (index : Nat) (bench : Bench)
    (success : build project.name scene project.options (Studio.start Engine.empty Panel.empty) = (.ok index, bench))
    (frames : UInt32) (asData : Bool) :
    let answer := fun edits => (run project edits frames.toNat).1
    let result := fun edits => (Request.simulateProject edits frames.toNat asData (.ok project)).result
    ∃ fragment tunables, project.options.fragment = some fragment ∧ Tunable.scan fragment = .ok tunables ∧
      (∀ path, (Request.inspectSource path asData (.ok fragment)).result =
        .ok (Inspect.printed asData path (tunables.map Inspect.Row.ofTunable))) ∧
      (∀ edits, SimulationEnd project tunables edits frames.toNat (answer edits) ∧
        ((∃ simulation, answer edits = .ok simulation) ↔ ∀ edit ∈ edits, Fits tunables edit) ∧
        result edits = ((answer edits).mapError .simulation).map fun s => printed asData s.name s.frames s.values) ∧
      ∀ edits others, (∀ name, edits.filter (·.name = name) = others.filter (·.name = name)) →
        (result edits).toOption = (result others).toOption := by
  intro answer result
  obtain ⟨fragment, tunables, given, scanned, ending⟩ := simulation_end project index bench success
  have small : frames.toNat ≤ 2 ^ 64 := by
    have := frames.toNat_lt
    omega
  have each : ∀ edits, SimulationEnd project tunables edits frames.toNat (answer edits) :=
    fun edits => ending edits frames.toNat small
  have shown : ∀ edits, (result edits).toOption =
      (answer edits).toOption.map fun s => printed asData s.name s.frames s.values := by
    intro edits
    simp only [result, simulation_printed]
    change _ = (run project edits frames.toNat).1.toOption.map _
    cases (run project edits frames.toNat).1 <;> rfl
  refine ⟨fragment, tunables, given, scanned, ?_, fun edits => ⟨each edits, (each edits).finished_iff, ?_⟩, ?_⟩
  · intro path
    simp only [Request.inspectSource, scanned, Inspect.report_printed]
  · exact simulation_printed project edits frames.toNat asData
  · intro edits others same
    rw [shown, shown, (each edits).order same (each others)]

theorem gain_edited_twice :
    let project : Project := ⟨"tint", "tint.frag", gainOptions.withTimeUniform "time"⟩
    let edits : List Assignment := [⟨"gain", "2"⟩, ⟨"gain", "0x3"⟩]
    let rows : List UniformValue := [⟨"gain", .knob .scalar, .float (Number.Binary.ofInt Number.single 3)⟩, timeRow 1 "time"]
    (run project edits 1).1.map (·.values) = .ok rows ∧
      (Request.simulateProject edits 1 true (.ok project)).result = .ok (printed true "tint" 1 rows) := by
  intro project edits rows
  have success : (build project.name scene project.options (Studio.start Engine.empty Panel.empty : Bench)).1 = .ok 0 := by
    decide +kernel
  have run : (run project edits 1).1.map (fun s => (s.name, s.frames, s.values)) = .ok ("tint", 1, rows) := by
    decide +kernel
  obtain ⟨_, _, _, _, _, ending, _⟩ := simulate_last_edit_wins project 0 _ (answer_pair _ _ success) 1 true
  have shown : (Request.simulateProject edits 1 true (.ok project)).result =
      ((Simulation.run project edits 1).1.mapError .simulation).map fun s => printed true s.name s.frames s.values :=
    (ending edits).2.2
  cases finished : (Simulation.run project edits 1).1 with
  | error _ =>
      rw [finished] at run
      cases run
  | ok simulation =>
      rw [finished] at run
      obtain ⟨name, frames, values⟩ : simulation.name = "tint" ∧ simulation.frames = 1 ∧ simulation.values = rows := by
        simpa [Except.map] using run
      refine ⟨congrArg Except.ok values, shown.trans ?_⟩
      rw [finished, ← name, ← frames, ← values]
      rfl

end Simulation

end ShaderKnobs
