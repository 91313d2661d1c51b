import ShaderKnobs.Proofs.Studio.Coherence

set_option autoImplicit false

namespace ShaderKnobs.Studio

-- The values of a plan's annotated uniforms at first.
def firstValues (plan : Blueprint) : ValueTable := initialValues (plan.tunables.map (·.controlSpec))

theorem equip_engine (scene : SceneId) (material : MaterialHandle) (index : Nat) (plan : Blueprint) (engine : Engine) :
    equip scene material index plan engine = match plan.counter with
      | none => engine.writeTable material (firstValues plan)
      | some name => (engine.writeTable material (firstValues plan)).onBeforeRender scene
          (.counter index material name 0) := by
  rw [equip, Engine.apply_table]
  rfl

theorem equip_frame (scene : SceneId) (material : MaterialHandle) (index : Nat) (plan : Blueprint) (engine : Engine) :
    let equipped := equip scene material index plan engine
    (∀ other name, equipped.uniform? other name =
      (engine.writeTable material (firstValues plan)).uniform? other name) ∧
    (engine.Ledger → equipped.Ledger) ∧ equipped.lastHandle = engine.lastHandle ∧
    equipped.hooks = engine.hooks ++
      (plan.counter.map fun name => (scene, FrameHook.counter index material name 0)).toList := by
  obtain ⟨lastHandle, hooks⟩ := engine.write_table_only_writes material (firstValues plan)
  have ledger := engine.ledger_write_table material (firstValues plan)
  simp only [equip_engine]
  cases plan.counter with
  | none => exact ⟨fun _ _ => rfl, ledger, lastHandle, hooks.trans (List.append_nil _).symm⟩
  | some name => exact ⟨fun _ _ => rfl, ledger, lastHandle, congrArg (· ++ [_]) hooks⟩

theorem fresh_value (name : String) (plan : Blueprint) (program : ProgramId) (material : MaterialHandle)
    (made : Option SectionId × List (String × ControlId)) (distinct : (plan.tunables.map (·.name)).Nodup)
    (tunable : Tunable) (member : tunable ∈ plan.tunables) :
    ∃ value, tunable.knob.slotValue? tunable.initial = some value ∧
      ValueTable.get? tunable.name (firstValues plan) = some ⟨tunable.name, .knob tunable.knob, value⟩ ∧
      (freshShader name plan program material made).value? tunable.name = some value := by
  obtain ⟨value, accepted, found⟩ := initial_values_get plan.tunables tunable member distinct
  refine ⟨value, accepted, found, ?_⟩
  have whole : ValueTable.get? tunable.name (freshShader name plan program material made).values =
      some ⟨tunable.name, .knob tunable.knob, value⟩ := by
    simp only [ValueTable.get?] at found ⊢
    rw [freshShader, List.find?_append, found, Option.some_or]
  rw [LiveShader.value?, whole]
  rfl

theorem fresh_counter (name : String) (plan : Blueprint) (program : ProgramId) (material : MaterialHandle)
    (made : Option SectionId × List (String × ControlId)) (distinct : (plan.heads.map (·.1)).Nodup) (time : String)
    (counter : plan.counter = some time) :
    (freshShader name plan program material made).value? time =
      some (.float (Number.Binary.ofInt Number.single 0)) := by
  let shader := freshShader name plan program material made
  have names : (shader.values.map (·.name)).Nodup := by
    rw [← ValueTable.heads_names, fresh_shader_heads]
    exact distinct
  have member : counterValue time ∈ shader.values := by
    simp [shader, freshShader, counter]
  have found := ValueTable.get_of_member shader.values (counterValue time) names member
  exact congrArg (Option.map UniformValue.current) found

theorem names_distinct (plan : Blueprint) (distinct : (plan.heads.map (·.1)).Nodup) :
    (plan.tunables.map (·.name)).Nodup := by
  rw [Blueprint.heads, List.map_append, List.nodup_append, List.map_map] at distinct
  exact distinct.1

-- What a build ends with: the new shader stands behind the others and the engine has its first values.
structure Joined (scene : SceneId) (plan : Blueprint) (shader : LiveShader) (engine : Engine)
    (before after : PlainStudio) : Prop where
  distinct : (plan.heads.map (·.1)).Nodup
  heads : shader.wiring.heads = plan.heads
  tunables : shader.wiring.tunables = plan.tunables
  values : ∀ tunable ∈ plan.tunables, ∃ value, tunable.knob.slotValue? tunable.initial = some value ∧
    ValueTable.get? tunable.name (firstValues plan) = some ⟨tunable.name, .knob tunable.knob, value⟩ ∧
    shader.value? tunable.name = some value
  quiet : before.engine.NoWrites engine
  unused : before.engine.lastHandle < shader.material.number
  issued : shader.material.number = engine.lastHandle
  equipped : after.engine = equip scene shader.material before.shaders.length plan engine
  shaders : after.shaders = before.shaders ++ [shader]

section

variable {scene : SceneId} {plan : Blueprint} {shader : LiveShader} {engine : Engine} {before after : PlainStudio}

theorem Joined.wirings (joined : Joined scene plan shader engine before after) :
    after.wirings = before.wirings ++ [shader.wiring] := by
  rw [Studio.wirings, joined.shaders, List.map_append, List.map_singleton]
  rfl

theorem Joined.newest (joined : Joined scene plan shader engine before after) :
    after.shaders[before.shaders.length]? = some shader := by
  rw [joined.shaders]
  simp

theorem Joined.older (joined : Joined scene plan shader engine before after) (index : Nat) (old : LiveShader)
    (live : before.shaders[index]? = some old) : after.shaders[index]? = some old := by
  rw [joined.shaders, List.getElem?_append_left (List.getElem?_eq_some_iff.mp live).1]
  exact live

theorem Joined.declared (joined : Joined scene plan shader engine before after) : Declared shader.wiring := by
  refine ⟨?_, ?_⟩
  · rw [joined.heads]
    exact joined.distinct
  · intro tunable member
    rw [joined.tunables] at member
    rw [joined.heads]
    exact plan.tunable_head tunable member

-- The writes go to a material that no earlier shader has.
theorem Joined.mirrors (joined : Joined scene plan shader engine before after) (coherent : Coherent before)
    (index : Nat) (name : String) (mirrors : Mirrors before index name) : Mirrors after index name := by
  obtain ⟨old, held, live, has, slot⟩ := mirrors
  have member : old.wiring ∈ before.wirings := List.mem_map_of_mem (List.mem_of_getElem? live)
  have bound : old.material.number ≤ before.engine.lastHandle := coherent.engine.issued old.wiring member
  have apart : old.material ≠ shader.material := by
    intro same
    have unused := joined.unused
    rw [same] at bound
    omega
  obtain ⟨uniform, _⟩ := equip_frame scene shader.material before.shaders.length plan engine
  refine ⟨old, held, joined.older index old live, has, ?_⟩
  rw [joined.equipped, uniform, Engine.uniform_write_table_other old.material shader.material name _ engine (.inl apart),
    joined.quiet.uniform]
  exact slot

theorem Joined.born (joined : Joined scene plan shader engine before after) (tunable : Tunable)
    (member : tunable ∈ plan.tunables) : Mirrors after before.shaders.length tunable.name := by
  obtain ⟨value, _, found, has⟩ := joined.values tunable member
  obtain ⟨uniform, _⟩ := equip_frame scene shader.material before.shaders.length plan engine
  have table : ((firstValues plan).map (·.name)).Nodup := by
    rw [← ValueTable.heads_names, firstValues, initial_values_heads, List.map_map]
    exact names_distinct plan joined.distinct
  refine ⟨shader, value, joined.newest, has, ?_⟩
  rw [joined.equipped, uniform]
  exact engine.uniform_write_table shader.material tunable.name (firstValues plan) _ table found

theorem Joined.hooks (joined : Joined scene plan shader engine before after) :
    after.engine.hooks = before.engine.hooks ++ (plan.counter.map fun name =>
      (scene, FrameHook.counter before.shaders.length shader.material name 0)).toList := by
  obtain ⟨_, _, _, hooks⟩ := equip_frame scene shader.material before.shaders.length plan engine
  rw [joined.equipped, hooks, joined.quiet.hooks]

theorem Joined.linked (joined : Joined scene plan shader engine before after) (coherent : Coherent before) :
    EngineLinked after.wirings after.engine := by
  obtain ⟨_, _, lastHandle, _⟩ := equip_frame scene shader.material before.shaders.length plan engine
  rw [← joined.equipped] at lastHandle
  rw [joined.wirings]
  refine coherent.engine.grow shader.wiring joined.unused (Nat.le_of_eq (joined.issued.trans lastHandle.symm)) ?_
  intro entry member
  rw [joined.hooks] at member
  rcases List.mem_append.mp member with old | new
  · exact .inl old
  · obtain ⟨time, counter, rfl⟩ := Option.map_eq_some_iff.mp (Option.mem_toList.mp new)
    have head : (time, .frameCounter) ∈ shader.wiring.heads := by
      rw [joined.heads]
      exact plan.counter_head time counter
    refine .inr ⟨before.shaders.length, shader.wiring, time, rfl, ?_, head⟩
    rw [Studio.wirings, List.getElem?_append_right (by simp)]
    simp

theorem Joined.ledger (joined : Joined scene plan shader engine before after) (coherent : Coherent before) :
    after.engine.Ledger := by
  obtain ⟨_, ledger, _, _⟩ := equip_frame scene shader.material before.shaders.length plan engine
  rw [joined.equipped]
  exact ledger (joined.quiet.ledger coherent.ledger)

theorem Joined.onward (joined : Joined scene plan shader engine before after) (coherent : Coherent before)
    (panel : PanelLinked after.wirings after.panel) (shows : ∀ c ∈ after.panel.controls, Shows after.shaders c) :
    Onward before after := by
  refine ⟨⟨?_, joined.linked coherent, panel, joined.ledger coherent, ?_, shows⟩, ?_, joined.mirrors coherent, ?_⟩
  · intro wiring member
    rw [joined.wirings] at member
    rcases List.mem_append.mp member with old | new
    · exact coherent.declared wiring old
    · rw [List.mem_singleton.mp new]
      exact joined.declared
  · intro index wiring wired tunable member
    rw [joined.wirings] at wired
    rcases wired_append before.wirings shader.wiring wiring index wired with old | ⟨rfl, rfl⟩
    · exact joined.mirrors coherent index tunable.name (coherent.mirrors index wiring old tunable member)
    · rw [joined.tunables] at member
      rw [show before.wirings.length = before.shaders.length from List.length_map ..]
      exact joined.born tunable member
  · intro index wiring wired
    rw [joined.wirings]
    exact wired_grow wired shader.wiring
  · intro entry member
    rw [Engine.installed, joined.hooks, List.map_append]
    exact List.mem_append_left _ member

theorem Joined.shows (joined : Joined scene plan shader engine before after) (coherent : Coherent before)
    (panel : Panel) (gained : List Control)
    (grown : Grown (plan.tunables.map (·.controlSpec)) gained before.panel panel)
    (controls : after.panel.controls = before.panel.controls ++ gained.map (Control.following before.shaders.length)) :
    ∀ c ∈ after.panel.controls, Shows after.shaders c := by
  intro c member index heard
  rw [controls] at member
  rcases List.mem_append.mp member with old | new
  · obtain ⟨held, value, live, has, shown⟩ := coherent.shows c old index heard
    exact ⟨held, value, joined.older index held live, has, shown⟩
  · obtain ⟨own, present, rfl⟩ := List.mem_map.mp new
    obtain rfl : before.shaders.length = index := by simpa [Control.following] using heard
    obtain ⟨tunable, annotated, spec⟩ := List.mem_map.mp (grown.specs.subset (List.mem_map_of_mem present))
    obtain ⟨value, accepted, _, has⟩ := joined.values tunable annotated
    refine ⟨shader, value, joined.newest, ?_, ?_⟩
    · rw [show (own.following before.shaders.length).spec = own.spec from rfl, ← spec]
      exact has
    · change own.spec.knob.slotValue? own.setting = some value
      rw [(grown.untouched own present).1, ← spec]
      exact accepted

end

theorem grown_onward (name : String) (scene : SceneId) (plan : Blueprint) (program : ProgramId)
    (material : MaterialHandle) (engine : Engine) (studio after : PlainStudio) (coherent : Coherent studio)
    (distinct : (plan.heads.map (·.1)).Nodup) (quiet : studio.engine.NoWrites engine)
    (unused : studio.engine.lastHandle < material.number) (issued : material.number = engine.lastHandle)
    (equipped : after.engine = equip scene material studio.shaders.length plan engine)
    (afterPanel : let made := makeSection name (plan.tunables.map (·.controlSpec)) studio.panel
      after.panel = attachAll studio.shaders.length made.1.2 made.2 ∧
      after.shaders = studio.shaders ++ [freshShader name plan program material made.1]) :
    Onward studio after := by
  obtain ⟨afterPanel, afterShaders⟩ := afterPanel
  obtain ⟨gained, listed, grown, lastId, controls⟩ := built_controls name studio.shaders.length
    (plan.tunables.map (·.controlSpec)) studio.panel coherent.panel.bounded
  generalize makeSection name (plan.tunables.map (·.controlSpec)) studio.panel = made at *
  rw [← afterPanel] at lastId controls
  let shader := freshShader name plan program material made.1
  have names := names_distinct plan distinct
  have joined : Joined scene plan shader engine studio after :=
    { distinct := distinct
      heads := fresh_shader_heads name plan program material made.1
      tunables := rfl
      values := fresh_value name plan program material made.1 names
      quiet := quiet
      unused := unused
      issued := issued
      equipped := equipped
      shaders := afterShaders }
  have panel : PanelLinked after.wirings after.panel := by
    have count : studio.wirings.length = studio.shaders.length := List.length_map ..
    rw [← count] at controls
    rw [joined.wirings]
    exact coherent.panel.grow names listed grown lastId controls
  exact joined.onward coherent panel (joined.shows coherent made.2 gained grown controls)

end ShaderKnobs.Studio
