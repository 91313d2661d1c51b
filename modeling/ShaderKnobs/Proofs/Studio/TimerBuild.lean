import ShaderKnobs.Proofs.Studio.FailedBuild
import ShaderKnobs.Proofs.Studio.Timers

set_option autoImplicit false

namespace ShaderKnobs

theorem registered_materials (id : ProgramId) (vertex fragment : String) (before after : Engine)
    (answer : Except EngineError ProgramHandle)
    (registered : EngineHost.registerProgram id vertex fragment before = (answer, after)) :
    after.materials = before.materials := by
  obtain rfl : (before.registerProgram id vertex fragment).2 = after := congrArg Prod.snd registered
  simp only [Engine.registerProgram]
  split <;> rfl

theorem Engine.create_material_stored (name : String) (scene : SceneId) (program : ProgramHandle)
    (descriptor : MaterialDescriptor) (engine after : Engine) (material : MaterialHandle)
    (created : engine.createMaterial name scene program descriptor = (.ok material, after)) :
    after.materials = engine.materials ++ [⟨material, name, scene, program, descriptor⟩] := by
  simp only [createMaterial] at created
  split at created
  · cases (Prod.mk.inj created).1
  · obtain ⟨answer, rfl⟩ := Prod.mk.inj created
    obtain rfl := Except.ok.inj answer
    rfl

theorem Engine.write_table_log (material : MaterialHandle) (table : ValueTable) (engine : Engine) :
    let after := engine.writeTable material table
    after.log.toList = engine.log.toList ++ table.map (fun entry => ⟨material, entry.name, entry.current⟩) ∧
      after.materials = engine.materials := by
  induction table generalizing engine with
  | nil => exact ⟨(List.append_nil _).symm, rfl⟩
  | cons entry rest ih =>
      obtain ⟨log, materials⟩ := ih (engine.write material entry.name entry.current)
      refine ⟨log.trans ?_, materials⟩
      rw [log_write, List.append_assoc]
      rfl

theorem Engine.writes_grown {before after : Engine} {more : List SlotWrite}
    (log : after.log.toList = before.log.toList ++ more) (material : MaterialHandle) (name : String)
    (elsewhere : ∀ write ∈ more, ¬(write.material = material ∧ write.name = name)) :
    after.writesTo material name = before.writesTo material name := by
  have none : more.filter (fun write => write.material = material ∧ write.name = name) = [] := by
    rw [List.filter_eq_nil_iff]
    intro write member
    simpa using elsewhere write member
  rw [writesTo, writesTo, log, List.filter_append, none, List.append_nil]

theorem plan_counter (plan : Blueprint) :
    (plan.heads.find? (·.2 = .frameCounter)).map (·.1) = plan.counter := by
  have annotated :
      (plan.tunables.map fun t => (t.name, ValueSource.knob t.knob)).find? (·.2 = .frameCounter) = none := by
    simp
  rw [Blueprint.heads, List.find?_append, annotated, Option.none_or]
  cases plan.counter <;> rfl

namespace Studio

variable {P : Type}

structure Arrived (scene : SceneId) (plan : Blueprint) (shader : LiveShader) (material : Material)
    (before after : Studio Engine P) : Prop where
  declared : Declared shader.wiring
  heads : shader.wiring.heads = plan.heads
  first : ∀ time, plan.counter = some time → shader.value? time = some (frameValue 0)
  shaders : after.shaders = before.shaders ++ [shader]
  materials : after.engine.materials = before.engine.materials ++ [material]
  handle : material.handle = shader.material
  placed : material.scene = scene
  unused : before.engine.lastHandle < shader.material.number
  issued : shader.material.number = after.engine.lastHandle
  log : after.engine.log.toList = before.engine.log.toList ++
    (firstValues plan).map fun entry => ⟨shader.material, entry.name, entry.current⟩
  hooks : after.engine.hooks = before.engine.hooks ++ (plan.counter.map fun name =>
    (scene, FrameHook.counter before.shaders.length shader.material name 0)).toList

theorem equip_log (scene : SceneId) (material : MaterialHandle) (index : Nat) (plan : Blueprint) (engine : Engine) :
    let equipped := equip scene material index plan engine
    equipped.log.toList = engine.log.toList ++
      (firstValues plan).map (fun entry => ⟨material, entry.name, entry.current⟩) ∧
    equipped.materials = engine.materials := by
  obtain ⟨log, materials⟩ := engine.write_table_log material (firstValues plan)
  simp only [equip_engine]
  cases plan.counter with
  | none => exact ⟨log, materials⟩
  | some name => exact ⟨log, materials⟩

theorem build_arrived [PanelHost P] (name : String) (scene : SceneId) (options : Options)
    (studio after : Studio Engine P) (index : Nat)
    (success : build name scene options studio = (.ok index, after)) :
    index = studio.shaders.length ∧ ∃ plan shader material, Blueprint.ofOptions options = .ok plan ∧
      Arrived scene plan shader material studio after := by
  have ending := build_end name scene options studio
  rw [success] at ending
  cases ending with
  | built plan program material between engine notices drawn registered created =>
      have distinct := (blueprint_drawn options plan drawn).heads_distinct
      have first := registered_quiet _ _ _ _ _ _ registered
      have quiet := first.trans (created_quiet _ _ _ _ _ _ _ created)
      obtain ⟨above, issued⟩ := between.create_material_fresh _ _ _ _ engine material created
      have stored := between.create_material_stored _ _ _ _ engine material created
      have kept := registered_materials _ _ _ _ _ _ registered
      let made := makeSection name (plan.tunables.map (·.controlSpec)) studio.panel
      let shader := freshShader name plan (.numbered name (studio.lastProgram + 1)) material made.1
      obtain ⟨_, _, lastHandle, hooks⟩ := equip_frame scene material studio.shaders.length plan engine
      obtain ⟨log, materials⟩ := equip_log scene material studio.shaders.length plan engine
      have heads : shader.wiring.heads = plan.heads := fresh_shader_heads name plan _ material made.1
      refine ⟨rfl, plan, shader, ⟨material, name, scene, program, ⟨plan.uniforms, options.material⟩⟩, drawn, ?_⟩
      refine ⟨⟨?_, ?_⟩, heads, ?_, rfl, ?_, rfl, rfl, ?_, ?_, ?_, ?_⟩
      · rw [heads]
        exact distinct
      · rw [heads]
        exact plan.tunable_head
      · exact fresh_counter name plan _ material made.1 distinct
      · rw [← kept, ← stored]
        exact materials
      · exact Nat.lt_of_le_of_lt first.lastHandle above
      · exact issued.trans lastHandle.symm
      · rw [← quiet.log]
        exact log
      · rw [← quiet.hooks]
        exact hooks

section

variable {scene : SceneId} {plan : Blueprint} {shader : LiveShader} {material : Material}
  {before after : Studio Engine P}

theorem Arrived.wirings (arrived : Arrived scene plan shader material before after) :
    after.wirings = before.wirings ++ [shader.wiring] := by
  rw [Studio.wirings, arrived.shaders, List.map_append, List.map_singleton]
  rfl

theorem Arrived.counter (arrived : Arrived scene plan shader material before after) :
    shader.wiring.counter? = plan.counter := by
  rw [Wiring.counter?, arrived.heads]
  exact plan_counter plan

-- Older materials have smaller numbers, so looking one up does not find the new one.
theorem Arrived.older (arrived : Arrived scene plan shader material before after) (clocked : Clocked before)
    (wiring : Wiring) (member : wiring ∈ before.wirings) :
    wiring.material ≠ shader.material ∧
      after.engine.material? wiring.material = before.engine.material? wiring.material := by
  have apart : wiring.material ≠ shader.material := by
    intro same
    have bound := clocked.issued wiring member
    have unused := arrived.unused
    rw [same] at bound
    omega
  refine ⟨apart, ?_⟩
  rw [Engine.material?, arrived.materials, List.find?_append]
  simp [Engine.material?, arrived.handle, apart.symm]

theorem Arrived.newest (arrived : Arrived scene plan shader material before after) (clocked : Clocked before) :
    after.engine.material? shader.material = some material := by
  have none : before.engine.materials.find? (·.handle = shader.material) = none := by
    rw [List.find?_eq_none]
    intro old member same
    have bound := clocked.recorded old member
    have unused := arrived.unused
    rw [of_decide_eq_true same] at bound
    omega
  rw [Engine.material?, arrived.materials, List.find?_append, none, Option.none_or]
  simp [arrived.handle]

def newTimer? (scene : SceneId) (plan : Blueprint) (shader : LiveShader) (index : Nat) : Option Timer :=
  plan.counter.map fun name => ⟨scene, index, shader.material, name⟩

theorem Arrived.timers (arrived : Arrived scene plan shader material before after) (clocked : Clocked before) :
    after.timers = before.timers ++ (newTimer? scene plan shader before.shaders.length).toList := by
  have count : before.wirings.length = before.shaders.length := List.length_map ..
  rw [Studio.timers, arrived.wirings, List.zipIdx_append, List.filterMap_append, Nat.zero_add, count]
  congr 1
  · refine List.filterMap_congr fun entry member => ?_
    have wired : entry.1 ∈ before.wirings := (List.mem_zipIdx member).2.2 ▸ List.getElem_mem _
    rw [timer?, timer?, (arrived.older clocked entry.1 wired).2]
  · have found : timer? after.engine shader.wiring before.shaders.length =
        newTimer? scene plan shader before.shaders.length := by
      rw [timer?, arrived.counter, show shader.wiring.material = shader.material from rfl, arrived.newest clocked,
        ← arrived.placed, newTimer?, Option.map_eq_bind]
      rfl
    rw [List.zipIdx_cons, List.zipIdx_nil, List.filterMap_cons, List.filterMap_nil, found]
    cases newTimer? scene plan shader before.shaders.length <;> rfl

theorem Arrived.rests (arrived : Arrived scene plan shader material before after) (clocked : Clocked before)
    (t : Timer) (member : t ∈ before.timers) : Rests t before after := by
  obtain ⟨wiring, _, wired, same, _⟩ := (mem_timers before t).mp member
  have apart := (arrived.older clocked wiring (List.mem_of_getElem? wired)).1
  have older : t.shader < before.shaders.length := by
    rw [← show before.wirings.length = before.shaders.length from List.length_map ..]
    exact (List.getElem?_eq_some_iff.mp wired).1
  refine ⟨?_, ?_⟩
  · refine Engine.writes_grown arrived.log t.material t.name fun write new both => ?_
    obtain ⟨entry, _, rfl⟩ := List.mem_map.mp new
    exact apart (same.trans both.1.symm)
  · rw [held, held, arrived.shaders, List.getElem?_append_left older]

theorem Arrived.starts (arrived : Arrived scene plan shader material before after) (clocked : Clocked before)
    (t : Timer) (new : newTimer? scene plan shader before.shaders.length = some t) :
    t.frames after.engine = 0 ∧ Counts after t := by
  obtain ⟨time, counter, rfl⟩ := Option.map_eq_some_iff.mp new
  have none : after.engine.writesTo shader.material time = [] := by
    rw [Engine.writes_grown arrived.log shader.material time ?_]
    · rw [Engine.writesTo, List.map_eq_nil_iff, List.filter_eq_nil_iff]
      intro write member same
      have bound := clocked.logged write member
      have unused := arrived.unused
      rw [(of_decide_eq_true same).1] at bound
      omega
    · intro write member both
      obtain ⟨entry, present, rfl⟩ := List.mem_map.mp member
      have head : (entry.name, entry.source) ∈ ValueTable.heads (firstValues plan) :=
        List.mem_map.mpr ⟨entry, present, rfl⟩
      rw [firstValues, initial_values_heads] at head
      obtain ⟨tunable, annotated, same⟩ := List.mem_map.mp head
      obtain ⟨name, _⟩ := Prod.mk.inj same
      have own := plan.tunable_head tunable annotated
      rw [name, show entry.name = time from both.2] at own
      have distinct := arrived.declared.distinct
      rw [arrived.heads] at distinct
      cases head_unique plan.heads time _ _ distinct own (plan.counter_head time counter)
  have zero : Timer.frames after.engine ⟨scene, before.shaders.length, shader.material, time⟩ = 0 :=
    congrArg List.length none
  refine ⟨zero, ?_, ?_⟩
  · rw [none, zero]
    rfl
  · rw [zero, held, arrived.shaders]
    simp [arrived.first time counter]

theorem Arrived.clocked (arrived : Arrived scene plan shader material before after) (clocked : Clocked before) :
    Clocked after := by
  have grown : before.engine.lastHandle ≤ after.engine.lastHandle := by
    have unused := arrived.unused
    have issued := arrived.issued
    omega
  refine ⟨?_, ?_, ?_, ?_, ?_, ?_, ?_⟩
  · intro wiring member
    rw [arrived.wirings] at member
    rcases List.mem_append.mp member with old | new
    · exact clocked.declared wiring old
    · rw [List.mem_singleton.mp new]
      exact arrived.declared
  · intro wiring member
    rw [arrived.wirings] at member
    rcases List.mem_append.mp member with old | new
    · exact Nat.le_trans (clocked.issued wiring old) grown
    · rw [List.mem_singleton.mp new]
      exact Nat.le_of_eq arrived.issued
  · rw [arrived.wirings, List.map_append, List.nodup_append]
    refine ⟨clocked.apart, by simp, ?_⟩
    intro handle old other new
    obtain ⟨wiring, member, rfl⟩ := List.mem_map.mp old
    rw [List.map_singleton, List.mem_singleton] at new
    rw [new]
    exact (arrived.older clocked wiring member).1
  · intro old member
    rw [arrived.materials] at member
    rcases List.mem_append.mp member with old' | new
    · exact Nat.le_trans (clocked.recorded old old') grown
    · rw [List.mem_singleton.mp new, arrived.handle]
      exact Nat.le_of_eq arrived.issued
  · intro write member
    rw [arrived.log] at member
    rcases List.mem_append.mp member with old | new
    · exact Nat.le_trans (clocked.logged write old) grown
    · obtain ⟨entry, _, rfl⟩ := List.mem_map.mp new
      exact Nat.le_of_eq arrived.issued
  · have hooks := hooks_rest before.timers before after (arrived.rests clocked)
    rw [arrived.hooks, arrived.timers clocked, List.map_append, hooks, clocked.hooks]
    congr 1
    cases new : newTimer? scene plan shader before.shaders.length with
    | none => rw [Option.map_eq_none_iff.mp new]; rfl
    | some t =>
        have zero := (arrived.starts clocked t new).1
        obtain ⟨time, counter, rfl⟩ := Option.map_eq_some_iff.mp new
        rw [counter, Option.toList_some, List.map_singleton, Timer.hook, zero]
        rfl
  · intro t member
    rw [arrived.timers clocked] at member
    rcases List.mem_append.mp member with old | new
    · exact (arrived.rests clocked t old).counts (clocked.counts t old)
    · exact (arrived.starts clocked t (Option.mem_toList.mp new)).2

end

theorem refused_unticked [PanelHost P] (name : String) (scene : SceneId) (options : Options)
    (studio after : Studio Engine P) (error : BuildError)
    (refused : build name scene options studio = (.error error, after)) : Unticked studio after := by
  have ending := build_end name scene options studio
  rw [refused] at ending
  cases ending with
  | noBlueprint _ notices drawn => exact .aside rfl rfl
  | noProgram plan cause engine notices drawn registered =>
      exact .aside (Engine.refused_program _ _ _ _ engine cause registered) rfl
  | noMaterial plan program cause between engine notices drawn registered created =>
      obtain rfl : engine = between := Engine.refused_material _ _ _ _ _ engine cause created
      exact quiet_unticked _ _ (registered_quiet _ _ _ _ _ _ registered) (registered_materials _ _ _ _ _ _ registered)
        rfl

end Studio

end ShaderKnobs
