import ShaderKnobs.Command.Simulate
import ShaderKnobs.Proofs.Studio.Run

set_option autoImplicit false

namespace ShaderKnobs

theorem Engine.write_table_frames (material : MaterialHandle) (table : ValueTable) (engine : Engine) :
    (engine.writeTable material table).frames = engine.frames := by
  induction table generalizing engine with
  | nil => rfl
  | cons entry rest ih => exact ih (engine.write material entry.name entry.current)

theorem registered_frames (id : ProgramId) (vertex fragment : String) (before after : Engine)
    (answer : Except EngineError ProgramHandle)
    (registered : EngineHost.registerProgram id vertex fragment before = (answer, after)) :
    after.frames = before.frames := by
  obtain rfl : (before.registerProgram id vertex fragment).2 = after := congrArg Prod.snd registered
  simp only [Engine.registerProgram]
  split <;> rfl

theorem created_frames (name : String) (scene : SceneId) (program : ProgramHandle) (descriptor : MaterialDescriptor)
    (before after : Engine) (answer : Except EngineError MaterialHandle)
    (created : EngineHost.createMaterial name scene program descriptor before = (answer, after)) :
    after.frames = before.frames := by
  obtain rfl : (before.createMaterial name scene program descriptor).2 = after := congrArg Prod.snd created
  simp only [Engine.createMaterial]
  split <;> rfl

namespace Simulation

open Studio

def Reads (t : Tunable) (edit : Assignment) (setting : Setting) : Prop :=
  ∃ data, Literal.parse edit.literal = .ok data ∧ t.knob.setting? data = some setting

theorem Reads.unique {t : Tunable} {edit : Assignment} {one two : Setting} (first : Reads t edit one)
    (second : Reads t edit two) : one = two := by
  obtain ⟨data, literal, read⟩ := first
  obtain ⟨data', literal', read'⟩ := second
  obtain rfl := Except.ok.inj (literal.symm.trans literal')
  exact Option.some.inj (read.symm.trans read')

def Fits (tunables : List Tunable) (edit : Assignment) : Prop :=
  ∃ t ∈ tunables, t.name = edit.name ∧ ∃ setting, Reads t edit setting

-- What is wrong with an edit: its name, else its literal, else the literal for this knob.
inductive Faulty (tunables : List Tunable) (edit : Assignment) : EditError → Prop where
  | unknownUniform : edit.name ∉ tunables.map (·.name) → Faulty tunables edit (.unknownUniform edit.name)
  | badLiteral (t : Tunable) (cause : LiteralError) : t ∈ tunables → t.name = edit.name →
      Literal.parse edit.literal = .error cause → Faulty tunables edit (.badLiteral edit.name cause)
  | misfit (t : Tunable) (data : Json) : t ∈ tunables → t.name = edit.name → Literal.parse edit.literal = .ok data →
      t.knob.setting? data = none → Faulty tunables edit (.misfit edit.name edit.literal t.knob)

def lastEdit (edits : List Assignment) (name : String) : Option Assignment :=
  (edits.filter (·.name = name)).getLast?

-- The setting of a uniform after edits: what the last edit of it reads, or its initial setting.
inductive Settled (edits : List Assignment) (t : Tunable) : Setting → Prop where
  | initial : lastEdit edits t.name = none → Settled edits t t.initial
  | edited (edit : Assignment) (setting : Setting) : lastEdit edits t.name = some edit → Reads t edit setting →
      Settled edits t setting

theorem last_edit_more (done : List Assignment) (edit : Assignment) (name : String) :
    lastEdit (done ++ [edit]) name = if edit.name = name then some edit else lastEdit done name := by
  simp only [lastEdit, List.filter_append]
  by_cases same : edit.name = name
  · rw [if_pos same, List.filter_singleton]
    simp [same]
  · rw [if_neg same, List.filter_singleton]
    simp [same]

structure Fitted (plan : Blueprint) (wiring : Wiring) : Prop where
  distinct : (plan.heads.map (·.1)).Nodup
  heads : wiring.heads = plan.heads
  tunables : wiring.tunables = plan.tunables
  controls : wiring.controls.map (·.1) = plan.tunables.map (·.name)

def control? (name : String) (wiring : Wiring) : Option ControlId := (wiring.controls.find? (·.1 = name)).map (·.2)

structure Stands (plan : Blueprint) (wiring : Wiring) (done : List Assignment) (bench : Bench) (shader : LiveShader) :
    Prop where
  coherent : Coherent bench
  shaders : bench.shaders = [shader]
  wired : shader.wiring = wiring
  alive : bench.panel.disposed = false
  live : ∀ t ∈ plan.tunables, ∃ id c, control? t.name wiring = some id ∧ bench.panel.control? id = some c ∧
    c.spec = t.controlSpec
  settled : ∀ t ∈ plan.tunables, ∃ setting value, Settled done t setting ∧ t.knob.slotValue? setting = some value ∧
    shader.value? t.name = some value
  counter : ∀ time, plan.counter = some time →
    shader.value? time = some (.float (Number.Binary.ofInt Number.single 0))
  hooks : bench.engine.hooks =
    (plan.counter.map fun name => (scene, FrameHook.counter 0 wiring.material name 0)).toList
  frames : bench.engine.frames = []

theorem fitted_control (panel : Panel) (gained : List Control) (tunables : List Tunable)
    (all : gained.map (·.spec) = tunables.map (·.controlSpec)) (names : (tunables.map (·.name)).Nodup)
    (ids : (panel.controls.map (·.id)).Nodup) (controls : panel.controls = gained.map (Control.following 0))
    (t : Tunable) (member : t ∈ tunables) :
    ∃ id c, ((gained.map Control.entry).find? (·.1 = t.name)).map (·.2) = some id ∧ panel.control? id = some c ∧
      c.spec = t.controlSpec := by
  have known : t.controlSpec ∈ gained.map (·.spec) := by
    rw [all]
    exact List.mem_map_of_mem member
  obtain ⟨c, made, spec⟩ := List.mem_map.mp known
  have keys : ((gained.map Control.entry).map (·.1)).Nodup := by
    have same : (gained.map Control.entry).map (·.1) = (gained.map (·.spec)).map (·.key) := by
      rw [List.map_map, List.map_map]
      rfl
    rw [same, all, List.map_map]
    exact names
  have key : c.entry.1 = t.name := congrArg ControlSpec.key spec
  have entry := find_key Prod.fst (gained.map Control.entry) c.entry keys (List.mem_map_of_mem made)
  have present : c.following 0 ∈ panel.controls := by
    rw [controls]
    exact List.mem_map_of_mem made
  rw [key] at entry
  refine ⟨c.id, c.following 0, ?_, find_key Control.id panel.controls _ ids present, spec⟩
  exact congrArg (Option.map Prod.snd) entry

theorem section_complete (name : String) (tunables : List Tunable) :
    let made := makeSection name (tunables.map (·.controlSpec)) Panel.empty
    (attachAll 0 made.1.2 made.2).disposed = false ∧
      ∃ gained : List Control, made.1.2 = gained.map Control.entry ∧ gained.map (·.spec) = tunables.map (·.controlSpec) ∧
        (attachAll 0 made.1.2 made.2).controls = gained.map (Control.following 0) := by
  intro made
  obtain ⟨length, alive⟩ :=
    make_section_live name (tunables.map (·.controlSpec)) Panel.empty rfl (specs_accepted tunables)
  obtain ⟨gained, listed, grown, _, controls⟩ := built_controls name 0 (tunables.map (·.controlSpec)) Panel.empty
    (fun _ member => (by cases member))
  refine ⟨(attach_all_disposed 0 made.1.2 made.2).trans alive, gained, listed, grown.specs.eq_of_length ?_, controls⟩
  rw [List.length_map, ← length, listed, List.length_map]

theorem equip_no_frames (material : MaterialHandle) (index : Nat) (plan : Blueprint) (engine : Engine)
    (frames : engine.frames = []) : (equip scene material index plan engine).frames = [] := by
  have written := engine.write_table_frames material (initialValues (plan.tunables.map (·.controlSpec)))
  rw [frames] at written
  simp only [equip_engine]
  cases plan.counter <;> exact written

theorem build_stands (name : String) (options : Options) (index : Nat) (bench : Bench)
    (success : build name scene options (Studio.start Engine.empty Panel.empty) = (.ok index, bench)) :
    index = 0 ∧ ∃ plan wiring shader, Blueprint.ofOptions options = .ok plan ∧ Fitted plan wiring ∧
      Stands plan wiring [] bench shader := by
  obtain ⟨onward, _⟩ := built_onward name scene options (Studio.start Engine.empty Panel.empty) bench index
    (fresh_coherent 0) success
  have coherent := onward.coherent
  have ending := build_end name scene options (Studio.start Engine.empty Panel.empty : Bench)
  rw [success] at ending
  cases ending with
  | built plan program material between engine notices drawn registered created =>
      have distinct := (blueprint_drawn options plan drawn).heads_distinct
      have names := names_distinct plan distinct
      have quiet := (registered_quiet _ _ _ _ _ _ registered).trans (created_quiet _ _ _ _ _ _ _ created)
      obtain ⟨alive, gained, listed, all, controls⟩ := section_complete name plan.tunables
      have frames : engine.frames = [] :=
        (created_frames _ _ _ _ _ _ _ created).trans (registered_frames _ _ _ _ _ _ registered)
      obtain ⟨_, _, _, hooks⟩ := equip_frame scene material 0 plan engine
      let made := makeSection name (plan.tunables.map (·.controlSpec)) Panel.empty
      let shader := freshShader name plan (.numbered name 1) material made.1
      refine ⟨rfl, plan, shader.wiring, shader, drawn, ⟨distinct, ?_, rfl, ?_⟩, coherent, rfl, rfl, alive, ?_, ?_, ?_, ?_,
        equip_no_frames material 0 plan engine frames⟩
      · exact fresh_shader_heads name plan (.numbered name 1) material made.1
      · change made.1.2.map (·.1) = _
        rw [show made.1.2 = _ from listed, List.map_map]
        have keys := congrArg (List.map ControlSpec.key) all
        rw [List.map_map, List.map_map] at keys
        exact keys
      · intro t member
        obtain ⟨id, c, found, present, spec⟩ := fitted_control _ gained plan.tunables all names coherent.panel.ids controls
          t member
        rw [← listed] at found
        exact ⟨id, c, found, present, spec⟩
      · intro t member
        obtain ⟨value, accepted, _, held⟩ := fresh_value name plan (.numbered name 1) material made.1 names t member
        exact ⟨t.initial, value, .initial rfl, accepted, held⟩
      · exact fresh_counter name plan (.numbered name 1) material made.1 distinct
      · exact hooks.trans (by rw [quiet.hooks]; rfl)

section

variable {plan : Blueprint} {wiring : Wiring} {done : List Assignment} {bench : Bench} {shader : LiveShader}

theorem Stands.control (stands : Stands plan wiring done bench shader) (name : String) :
    (bench.shaders[0]?).bind (·.control? name) = control? name wiring := by
  rw [stands.shaders, ← stands.wired]
  rfl

theorem Stands.edit_of_known (stands : Stands plan wiring done bench shader) (edit : Assignment) (t : Tunable)
    (member : t ∈ plan.tunables) (named : t.name = edit.name) :
    ∃ id c, bench.panel.control? id = some c ∧ c.spec = t.controlSpec ∧
      editOf 0 edit bench = match Literal.parse edit.literal with
        | .error cause => .error (.badLiteral edit.name cause)
        | .ok data => match t.knob.setting? data with
          | none => .error (.misfit edit.name edit.literal t.knob)
          | some setting => .ok (id, setting) := by
  obtain ⟨id, c, found, present, spec⟩ := stands.live t member
  rw [named] at found
  refine ⟨id, c, present, spec, ?_⟩
  simp only [editOf, stands.control, found, present, spec]
  rfl

theorem Stands.edit_of_unknown (stands : Stands plan wiring done bench shader) (fitted : Fitted plan wiring)
    (edit : Assignment) (unknown : edit.name ∉ plan.tunables.map (·.name)) :
    editOf 0 edit bench = .error (.unknownUniform edit.name) := by
  have absent : wiring.controls.find? (·.1 = edit.name) = none := by
    rw [List.find?_eq_none]
    intro entry member same
    rw [decide_eq_true_eq] at same
    rw [← fitted.controls, ← same] at unknown
    exact unknown (List.mem_map_of_mem member)
  simp only [editOf, stands.control, control?, absent]
  rfl

theorem Stands.misfit_refused (stands : Stands plan wiring done bench shader) (fitted : Fitted plan wiring)
    (edit : Assignment) (misfit : ¬Fits plan.tunables edit) :
    ∃ cause, applyEdit 0 edit bench = (.error cause, bench) ∧ Faulty plan.tunables edit cause := by
  suffices faulty : ∃ cause, editOf 0 edit bench = .error cause ∧ Faulty plan.tunables edit cause by
    obtain ⟨cause, refused, fault⟩ := faulty
    exact ⟨cause, by rw [applyEdit, refused], fault⟩
  by_cases known : edit.name ∈ plan.tunables.map (·.name)
  · obtain ⟨t, member, named⟩ := List.mem_map.mp known
    obtain ⟨id, c, _, _, ending⟩ := stands.edit_of_known edit t member named
    cases literal : Literal.parse edit.literal with
    | error cause =>
        rw [literal] at ending
        exact ⟨_, ending, .badLiteral t cause member named literal⟩
    | ok data =>
        cases read : t.knob.setting? data with
        | none =>
            rw [literal] at ending
            dsimp only at ending
            rw [read] at ending
            exact ⟨_, ending, .misfit t data member named literal read⟩
        | some setting => exact absurd ⟨t, member, named, setting, data, literal, read⟩ misfit
  · exact ⟨_, stands.edit_of_unknown fitted edit known, .unknownUniform known⟩

theorem Settled.keep {t : Tunable} {setting : Setting} (settled : Settled done t setting) (edit : Assignment)
    (other : edit.name ≠ t.name) : Settled (done ++ [edit]) t setting := by
  have same : lastEdit (done ++ [edit]) t.name = lastEdit done t.name := by
    rw [last_edit_more, if_neg other]
  cases settled with
  | initial none => exact .initial (same.trans none)
  | edited last _ found reads => exact .edited last setting (same.trans found) reads

theorem Stands.delivered (stands : Stands plan wiring done bench shader) (fitted : Fitted plan wiring)
    (edit : Assignment) (t : Tunable) (member : t ∈ plan.tunables) (named : t.name = edit.name) (setting : Setting)
    (value : SlotValue) (reads : Reads t edit setting) (written : t.knob.slotValue? setting = some value)
    (id : ControlId) (coherent : Coherent (deliver 0 wiring.material t.name value (setControl id setting bench))) :
    Stands plan wiring (done ++ [edit]) (deliver 0 wiring.material t.name value (setControl id setting bench))
      (shader.assign t.name value) := by
  have names := names_distinct plan fitted.distinct
  refine ⟨coherent, ?_, ?_, stands.alive, ?_, ?_, ?_, stands.hooks, stands.frames⟩
  · simp only [deliver, setControl, stands.shaders]
    rfl
  · rw [LiveShader.wiring_assign, stands.wired]
  · intro other present
    obtain ⟨id', c, found, live, spec⟩ := stands.live other present
    have moved : (deliver 0 wiring.material t.name value (setControl id setting bench)).panel.control? id' =
        (bench.panel.control? id').map fun c => if c.id = id then { c with setting := setting } else c :=
      find_key_map Control.id _ (fun c => by split <;> rfl) bench.panel.controls id'
    rw [live] at moved
    refine ⟨id', _, found, moved, ?_⟩
    dsimp only
    split <;> exact spec
  · intro other present
    obtain ⟨before, held, settled, accepted, has⟩ := stands.settled other present
    by_cases same : other.name = t.name
    · obtain rfl : other = t := List.inj_on_of_nodup_map names present member same
      refine ⟨setting, value, .edited edit setting ?_ reads, written, ?_⟩
      · rw [last_edit_more, if_pos named.symm]
      · rw [LiveShader.value_assign, if_pos rfl, has, Option.map_some]
    · refine ⟨before, held, settled.keep edit ?_, accepted, ?_⟩
      · rw [← named]
        exact Ne.symm same
      · rw [LiveShader.value_assign, if_neg same]
        exact has
  · intro time counter
    have apart : time ≠ t.name := by
      rintro rfl
      cases head_unique plan.heads t.name _ _ fitted.distinct (plan.tunable_head t member)
        (plan.counter_head t.name counter)
    rw [LiveShader.value_assign, if_neg apart]
    exact stands.counter time counter

theorem Stands.fit_delivered (stands : Stands plan wiring done bench shader) (fitted : Fitted plan wiring)
    (edit : Assignment) (t : Tunable) (member : t ∈ plan.tunables) (named : t.name = edit.name) (setting : Setting)
    (reads : Reads t edit setting) (value : SlotValue) (written : t.knob.slotValue? setting = some value) :
    ∃ id, applyEdit 0 edit bench = (.ok (), deliver 0 wiring.material t.name value (setControl id setting bench)) ∧
      Stands plan wiring (done ++ [edit]) (deliver 0 wiring.material t.name value (setControl id setting bench))
        (shader.assign t.name value) := by
  obtain ⟨id, c, present, spec, ending⟩ := stands.edit_of_known edit t member named
  obtain ⟨data, literal, read⟩ := reads
  have knob : c.spec.knob.slotValue? setting = some value := by
    rw [spec]
    exact written
  obtain ⟨index, wiring', takes, edited⟩ := edit_live bench stands.coherent stands.alive id c present setting value knob
  have wired : bench.wirings = [wiring] := by
    rw [wirings, stands.shaders, ← stands.wired]
    rfl
  have place := takes.wired
  rw [wired, List.getElem?_singleton] at place
  split at place
  · next here =>
      subst here
      obtain rfl := Option.some.inj place
      have key : c.spec.key = t.name := congrArg ControlSpec.key spec
      have coherent := (edit_onward bench stands.coherent id setting).coherent
      rw [edited, key] at coherent
      rw [key] at edited
      rw [literal] at ending
      dsimp only at ending
      rw [read] at ending
      refine ⟨id, ?_, stands.delivered fitted edit t member named setting value ⟨data, literal, read⟩ written id coherent⟩
      simp only [applyEdit, ending]
      rw [edited]
      rfl
  · cases place

theorem Stands.fit_taken (stands : Stands plan wiring done bench shader) (fitted : Fitted plan wiring)
    (edit : Assignment) (fits : Fits plan.tunables edit) :
    ∃ after shader', applyEdit 0 edit bench = (.ok (), after) ∧ Stands plan wiring (done ++ [edit]) after shader' := by
  obtain ⟨t, member, named, setting, reads⟩ := fits
  obtain ⟨data, literal, read⟩ := reads
  obtain ⟨value, written⟩ := t.knob.setting_accepted data setting read
  obtain ⟨id, taken, stands'⟩ :=
    stands.fit_delivered fitted edit t member named setting ⟨data, literal, read⟩ value written
  exact ⟨_, _, taken, stands'⟩

theorem Stands.edits_end (stands : Stands plan wiring done bench shader) (fitted : Fitted plan wiring)
    (edits : List Assignment) :
    (∃ after shader', (∀ edit ∈ edits, Fits plan.tunables edit) ∧ applyEdits 0 edits bench = (.ok (), after) ∧
        Stands plan wiring (done ++ edits) after shader') ∨
      ∃ front edit back cause after, edits = front ++ edit :: back ∧ (∀ early ∈ front, Fits plan.tunables early) ∧
        ¬Fits plan.tunables edit ∧ Faulty plan.tunables edit cause ∧ applyEdits 0 edits bench = (.error cause, after) := by
  induction edits generalizing done bench shader with
  | nil =>
      rw [← List.append_nil done] at stands
      exact .inl ⟨bench, shader, by simp, rfl, stands⟩
  | cons edit rest ih =>
      by_cases fits : Fits plan.tunables edit
      · obtain ⟨between, shader', taken, stands'⟩ := stands.fit_taken fitted edit fits
        have step : applyEdits 0 (edit :: rest) bench = applyEdits 0 rest between := by
          rw [applyEdits, taken]
        rcases ih stands' with ⟨after, shader'', all, result, final⟩ |
          ⟨front, last, back, cause, after, split, early, misfit, fault, result⟩
        · rw [List.append_assoc, List.singleton_append] at final
          exact .inl ⟨after, shader'', List.forall_mem_cons.mpr ⟨fits, all⟩, step.trans result, final⟩
        · exact .inr ⟨edit :: front, last, back, cause, after, by rw [split, List.cons_append],
            List.forall_mem_cons.mpr ⟨fits, early⟩, misfit, fault, step.trans result⟩
      · obtain ⟨cause, refused, fault⟩ := stands.misfit_refused fitted edit fits
        exact .inr ⟨[], edit, rest, cause, bench, rfl, by simp, fits, fault, by rw [applyEdits, refused]⟩

end

end Simulation

end ShaderKnobs
