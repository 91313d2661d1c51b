import ShaderKnobs.Proofs.Studio.BuildAnswer

set_option autoImplicit false

namespace ShaderKnobs

theorem driver_installed (engine : Engine) (scene : SceneId) (hook : FrameHook) (write : SlotWrite)
    (installed : (scene, hook) ∈ engine.installed) (drives : hook.Drives write) :
    ∃ hook, (scene, hook) ∈ engine.hooks ∧ hook.Drives write := by
  obtain ⟨⟨home, own⟩, member, same⟩ := List.mem_map.mp installed
  obtain ⟨rfl, rfl⟩ := Prod.mk.inj same
  cases own with
  | counter index other time frame => exact drives.elim
  | script deeds turn => exact ⟨.script deeds turn, member, drives⟩

def FirstRecord (material : MaterialHandle) (tunable : Tunable) (write : SlotWrite) : Prop :=
  write.material = material ∧ write.name = tunable.name ∧ tunable.knob.slotValue? tunable.initial = some write.value

theorem first_records (material : MaterialHandle) (tunables : List Tunable) :
    List.Forall₂ (FirstRecord material) tunables
      ((initialValues (tunables.map (·.controlSpec))).map fun entry => ⟨material, entry.name, entry.current⟩) := by
  induction tunables with
  | nil => exact .nil
  | cons tunable rest ih =>
      obtain ⟨value, accepted⟩ := tunable.initial_accepted
      have first : tunable.controlSpec.knob.slotValue? tunable.controlSpec.initial = some value := accepted
      simp only [initialValues, List.map_cons, List.filterMap_cons, first, Option.map_some] at ih ⊢
      exact .cons ⟨rfl, rfl, accepted⟩ ih

-- The list of a material: transform uniforms, annotated uniforms as they stand in the source, the counter.
structure Lists (options : Options) (plan : Blueprint) (uniforms : List String) : Prop where
  names : uniforms = transformUniforms ++ plan.tunables.map (·.name) ++ options.counterName?.toList
  lines : (plan.tunables.map (·.line)).Pairwise (· < ·)
  distinct : uniforms.Nodup

theorem Drawn.lists {options : Options} {plan : Blueprint} (drawn : Drawn options plan) :
    Lists options plan plan.uniforms where
  names := by rw [drawn.uniforms, drawn.counter, List.append_assoc]
  lines := Tunable.declared_rising _ _ (Tunable.scan_declares _ _ drawn.scanned).2
  distinct := drawn.distinct

def Covers (uniforms : List String) (name : String) : Prop := uniforms.count name = 1 ∧ name ∉ transformUniforms

theorem Drawn.covers {options : Options} {plan : Blueprint} (drawn : Drawn options plan) (name : String)
    (named : name ∈ plan.heads.map (·.1)) : Covers plan.uniforms name := by
  have distinct := drawn.distinct
  have listed : name ∈ plan.uniforms := by
    rw [drawn.uniforms, ← drawn.heads_names]
    exact List.mem_append_right _ named
  refine ⟨List.count_eq_one_of_mem distinct listed, fun transform => ?_⟩
  rw [drawn.uniforms, ← drawn.heads_names, List.nodup_append] at distinct
  exact distinct.2.2 name transform name named rfl

namespace Studio

variable {P : Type}

structure Grows (before after : Studio Engine P) : Prop where
  orderly : Orderly after
  wirings : before.wirings <+: after.wirings
  materials : before.engine.materials <+: after.engine.materials
  installed : before.engine.installed ⊆ after.engine.installed
  written : ∃ more, after.engine.log.toList = before.engine.log.toList ++ more ∧
    ∀ write ∈ more, Authored after.wirings after.engine.installed write

theorem Grows.still {studio : Studio Engine P} (orderly : Orderly studio) : Grows studio studio where
  orderly := orderly
  wirings := List.prefix_refl _
  materials := List.prefix_refl _
  installed := List.Subset.refl _
  written := ⟨[], by simp, by simp⟩

theorem Grows.trans {first second third : Studio Engine P} (early : Grows first second) (late : Grows second third) :
    Grows first third where
  orderly := late.orderly
  wirings := early.wirings.trans late.wirings
  materials := early.materials.trans late.materials
  installed := List.Subset.trans early.installed late.installed
  written := by
    obtain ⟨one, first, sources⟩ := early.written
    obtain ⟨two, second, sources'⟩ := late.written
    refine ⟨one ++ two, by rw [second, first, List.append_assoc], ?_⟩
    rw [List.forall_mem_append]
    refine ⟨fun write member => ?_, sources'⟩
    exact (sources write member).mono late.wirings.subset late.installed

theorem Routine.grows {before after : Studio Engine P} (routine : Routine before after) (orderly : Orderly before) :
    Grows before after where
  orderly := routine.orderly orderly
  wirings := routine.wirings ▸ List.prefix_refl _
  materials := routine.materials ▸ List.prefix_refl _
  installed := routine.installed ▸ List.Subset.refl _
  written := by
    rw [routine.wirings, routine.installed]
    exact routine.written

section

variable {name : String} {scene : SceneId} {options : Options} {plan : Blueprint} {shader : LiveShader}
  {before after : Studio Engine P}

theorem Erected.grows (erected : Erected name scene options plan shader before after) (orderly : Orderly before) :
    Grows before after where
  orderly := erected.orderly orderly
  wirings := by
    rw [erected.wirings]
    exact List.prefix_append _ _
  materials := by
    rw [erected.materials]
    exact List.prefix_append _ _
  installed := by
    rw [erected.installed]
    exact List.subset_append_left _ _
  written := by
    refine ⟨_, erected.log, fun write member => ?_⟩
    obtain ⟨entry, present, rfl⟩ := List.mem_map.mp member
    have own : shader.wiring ∈ after.wirings := List.mem_of_getElem? erected.newest
    refine .shader shader.wiring own rfl ?_
    rw [LiveShader.wiring, ValueTable.heads_names, erected.values]
    exact List.mem_map_of_mem (List.mem_append_left _ present)

-- The material is the first with its number, so it is the one that is looked up.
theorem Erected.stored (erected : Erected name scene options plan shader before after) (orderly : Orderly before) :
    after.engine.material? shader.material = some ⟨shader.material, name, scene, ⟨before.engine.lastHandle + 1⟩,
      ⟨plan.uniforms, options.material⟩⟩ := by
  have older : before.engine.materials.find? (·.handle = shader.material) = none := by
    rw [List.find?_eq_none]
    intro material member same
    have bound := orderly.recorded material member
    rw [of_decide_eq_true same, erected.material] at bound
    dsimp only at bound
    omega
  rw [Engine.material?, erected.materials, List.find?_append, older, Option.none_or]
  exact List.find?_cons_of_pos (decide_eq_true rfl)

theorem Grows.wired (grows : Grows before after) (index : Nat) (wiring : Wiring)
    (wired : before.wirings[index]? = some wiring) : after.wirings[index]? = some wiring := by
  obtain ⟨more, wirings⟩ := grows.wirings
  rw [← wirings, List.getElem?_append_left (List.getElem?_eq_some_iff.mp wired).1]
  exact wired

theorem Grows.material (grows : Grows before after) (handle : MaterialHandle) (material : Material)
    (stored : before.engine.material? handle = some material) : after.engine.material? handle = some material := by
  obtain ⟨more, materials⟩ := grows.materials
  rw [Engine.material?] at stored ⊢
  rw [← materials, List.find?_append, stored, Option.some_or]

end

theorem perform_grows [EditHost P] (acts : List Act) (studio : Studio Engine P) (orderly : Orderly studio) :
    Grows studio (perform acts studio) := by
  induction acts generalizing studio with
  | nil => exact .still orderly
  | cons next rest ih =>
      have now : Grows studio (step studio next) := by
        rcases step_erects studio orderly next with routine | ⟨name, scene, options, plan, shader, _, erected⟩
        · exact routine.grows orderly
        · exact erected.grows orderly
      exact now.trans (ih (step studio next) now.orderly)

-- Nobody else has the shader's material: who writes into it by itself writes one of the shader's own uniforms.
theorem Grows.own_write {before after : Studio Engine P} (grows : Grows before after) (wiring : Wiring)
    (present : wiring ∈ after.wirings) (write : SlotWrite)
    (authored : Authored after.wirings after.engine.installed write) (same : write.material = wiring.material) :
    write.name ∈ wiring.heads.map (·.1) ∨
      ∃ scene hook, (scene, hook) ∈ after.engine.hooks ∧ hook.Drives write := by
  cases authored with
  | shader owner own material named =>
      obtain rfl : owner = wiring :=
        List.inj_on_of_nodup_map grows.orderly.apart own present (material.symm.trans same)
      exact .inl named
  | host scene hook installed drives => exact .inr ⟨scene, driver_installed _ scene hook write installed drives⟩

theorem uniform_list_covers_writes [EditHost P] (panel : P) (lastProgram : Nat) (uses : List (Use P)) (name : String)
    (scene : SceneId) (options : Options) (index : Nat) (built : Studio Engine P)
    (success : build name scene options ((Hosted.start panel lastProgram).useAll uses).studio = (.ok index, built)) :
    let before := ((Hosted.start panel lastProgram).useAll uses).studio
    ∃ plan shader material records, Blueprint.ofOptions options = .ok plan ∧
      built.shaders[index]? = some shader ∧ built.engine.material? shader.material = some material ∧
      Lists options plan shader.uniforms ∧ material.descriptor = ⟨shader.uniforms, options.material⟩ ∧
      ValueTable.heads shader.values = plan.heads ∧
      built.engine.log.toList = before.engine.log.toList ++ records ∧
      List.Forall₂ (FirstRecord shader.material) plan.tunables records ∧
      ∀ after : List Act,
        let studio := perform after built
        (∃ now, studio.shaders[index]? = some now ∧ now.wiring = shader.wiring) ∧
        studio.engine.material? shader.material = some material ∧
        ∃ more, studio.engine.log.toList = before.engine.log.toList ++ more ∧
          ∀ write ∈ more, write.material = shader.material → Covers shader.uniforms write.name ∨
            ∃ home hook, (home, hook) ∈ studio.engine.hooks ∧ hook.Drives write := by
  intro before
  have orderly := (Hosted.uses_accounted uses _ (Hosted.start_accounted panel lastProgram)).orderly
  cases answered : Blueprint.ofOptions options with
  | error error =>
      obtain ⟨notices, failed⟩ := build_of_undrawn name scene options before error answered
      cases (Prod.mk.inj (failed.symm.trans success)).1
  | ok plan =>
      obtain ⟨shader, after, succeeded, erected⟩ := build_of_drawn name scene options before orderly plan answered
      obtain ⟨answer, rfl⟩ := Prod.mk.inj (succeeded.symm.trans success)
      obtain rfl := Except.ok.inj answer
      have drawn := blueprint_drawn options plan answered
      have first := erected.grows orderly
      have live : after.shaders[before.shaders.length]? = some shader := by
        rw [erected.shaders]
        simp
      refine ⟨plan, shader, _, _, rfl, live, erected.stored orderly, erected.uniforms ▸ drawn.lists, ?_, ?_, erected.log,
        first_records shader.material plan.tunables, fun acts => ?_⟩
      · rw [erected.uniforms]
      · exact erected.heads
      · have later := perform_grows acts after first.orderly
        obtain ⟨more, log, sources⟩ := (first.trans later).written
        have wired := later.wired _ _ erected.newest
        refine ⟨wirings_get _ _ _ wired, later.material _ _ (erected.stored orderly), more, log, ?_⟩
        intro write member same
        rcases later.own_write shader.wiring (List.mem_of_getElem? wired) write (sources write member) same with
          named | driven
        · rw [erected.heads] at named
          rw [erected.uniforms]
          exact .inl (drawn.covers write.name named)
        · exact .inr driven

-- A host has a program of the same name and drives another slot of the material from the start.
theorem gain_list_covers_writes :
    let options := gainOptions.withTimeUniform " time "
    let uses : List (Use Panel) := [.number "tint", .register "tint" 1 "" "",
      .hook ⟨1⟩ fun turn => [.call (.setBool ⟨3⟩ "pulse" (turn % 2 = 0))]]
    let acts : List Act := [.frame ⟨1⟩, .edit ⟨2⟩ (.int 3), .dispose true 0, .build "tint" ⟨1⟩ options, .frame ⟨1⟩]
    ∃ built shader, build "tint" ⟨1⟩ options ((Hosted.start Panel.empty 0).useAll uses).studio = (.ok 0, built) ∧
      built.shaders[0]? = some shader ∧ shader.uniforms = transformUniforms ++ ["gain", "time"] ∧
      ∀ write ∈ (perform acts built).engine.log.toList, write.material = shader.material →
        Covers shader.uniforms write.name ∨
          ∃ home hook, (home, hook) ∈ (perform acts built).engine.hooks ∧ hook.Drives write := by
  intro options uses acts
  have success : (build "tint" ⟨1⟩ options ((Hosted.start Panel.empty 0).useAll uses).studio).1 = .ok 0 := by
    decide +kernel
  have names : (Blueprint.ofOptions options).map (·.tunables.map (·.name)) = .ok ["gain"] := by
    decide +kernel
  have counter : options.counterName? = some "time" := by
    decide +kernel
  have unwritten : ((Hosted.start Panel.empty 0).useAll uses).studio.engine.log.toList = [] := by
    decide +kernel
  obtain ⟨built, whole⟩ : ∃ built,
      build "tint" ⟨1⟩ options ((Hosted.start Panel.empty 0).useAll uses).studio = (.ok 0, built) :=
    ⟨_, answer_pair _ _ success⟩
  obtain ⟨plan, shader, material, records, drawn, live, _, lists, _, _, _, _, later⟩ :=
    uniform_list_covers_writes Panel.empty 0 uses "tint" ⟨1⟩ options 0 built whole
  rw [drawn] at names
  have named : plan.tunables.map (·.name) = ["gain"] := Except.ok.inj names
  obtain ⟨_, _, more, log, covers⟩ := later acts
  rw [unwritten, List.nil_append] at log
  refine ⟨built, shader, whole, live, ?_, ?_⟩
  · rw [lists.names, named, counter]
    rfl
  · rw [log]
    exact covers

end Studio

end ShaderKnobs
