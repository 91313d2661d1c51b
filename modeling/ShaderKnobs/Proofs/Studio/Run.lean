import ShaderKnobs.Proofs.Studio.CoherentBuild

set_option autoImplicit false

namespace ShaderKnobs.Studio

inductive Act where
  | build (name : String) (scene : SceneId) (options : Options)
  | edit (control : ControlId) (setting : Setting)
  | frame (scene : SceneId)
  | dispose (all : Bool) (shader : Nat)

section

variable {P : Type} [EditHost P]

def step (studio : Studio Engine P) : Act → Studio Engine P
  | .build name scene options => (build name scene options studio).2
  | .edit control setting => (edit control setting studio).2
  | .frame scene => renderFrame scene studio
  | .dispose all shader => studio.dispose true all shader

def perform (acts : List Act) (studio : Studio Engine P) : Studio Engine P := acts.foldl step studio

end

-- Nothing built yet; programs may have been numbered elsewhere.
def fresh (lastProgram : Nat) : PlainStudio := { Studio.start Engine.empty Panel.empty with lastProgram := lastProgram }

theorem fresh_coherent (lastProgram : Nat) : Coherent (fresh lastProgram) where
  declared _ member := by cases member
  engine := ⟨fun _ member => (by cases member), List.nodup_nil, fun _ member => (by cases member)⟩
  panel := ⟨fun _ member => (by cases member), List.nodup_nil, List.nodup_nil, fun _ member => (by cases member),
    fun _ _ _ wired => (by cases wired)⟩
  ledger := Engine.ledger_empty
  mirrors _ _ wired := by cases wired
  shows _ member := by cases member

theorem registered_quiet (id : ProgramId) (vertex fragment : String) (before after : Engine)
    (answer : Except EngineError ProgramHandle)
    (registered : EngineHost.registerProgram id vertex fragment before = (answer, after)) : before.NoWrites after := by
  have quiet := before.register_program_quiet id vertex fragment
  rw [show before.registerProgram id vertex fragment = _ from registered] at quiet
  exact quiet

theorem created_quiet (name : String) (scene : SceneId) (program : ProgramHandle) (descriptor : MaterialDescriptor)
    (before after : Engine) (answer : Except EngineError MaterialHandle)
    (created : EngineHost.createMaterial name scene program descriptor before = (answer, after)) :
    before.NoWrites after := by
  have quiet := before.create_material_quiet name scene program descriptor
  rw [show before.createMaterial name scene program descriptor = _ from created] at quiet
  exact quiet

theorem failed_onward (name : String) (scene : SceneId) (options : Options) (studio after : PlainStudio)
    (error : BuildError) (coherent : Coherent studio)
    (failed : build name scene options studio = (.error error, after)) : Onward studio after := by
  have ending := build_end name scene options studio
  rw [failed] at ending
  cases ending with
  | noBlueprint _ notices drawn =>
      exact quiet_onward studio _ coherent ⟨rfl, rfl, rfl, Nat.le_refl _⟩ rfl rfl
  | noProgram plan cause engine notices drawn registered =>
      exact quiet_onward studio _ coherent (registered_quiet _ _ _ _ _ _ registered) rfl rfl
  | noMaterial plan program cause between engine notices drawn registered created =>
      have first := registered_quiet _ _ _ _ _ _ registered
      have second := created_quiet _ _ _ _ _ _ _ created
      exact quiet_onward studio _ coherent (first.trans second) rfl rfl

theorem built_onward (name : String) (scene : SceneId) (options : Options) (studio after : PlainStudio) (index : Nat)
    (coherent : Coherent studio) (success : build name scene options studio = (.ok index, after)) :
    Onward studio after ∧ ∃ plan wiring, Blueprint.ofOptions options = .ok plan ∧
      after.wirings[index]? = some wiring ∧ wiring.tunables = plan.tunables ∧
      ∀ time, plan.counter = some time →
        (scene, .counter index wiring.material time 0) ∈ after.engine.installed := by
  have ending := build_end name scene options studio
  rw [success] at ending
  cases ending with
  | built plan program material between engine notices drawn registered created =>
      have distinct := (blueprint_drawn options plan drawn).heads_distinct
      have first := registered_quiet _ _ _ _ _ _ registered
      have second := created_quiet _ _ _ _ _ _ _ created
      obtain ⟨above, issued⟩ := between.create_material_fresh _ _ _ _ engine material created
      let made := makeSection name (plan.tunables.map (·.controlSpec)) studio.panel
      let shader := freshShader name plan (.numbered name (studio.lastProgram + 1)) material made.1
      refine ⟨?_, plan, shader.wiring, drawn, ?_, rfl, ?_⟩
      · exact grown_onward name scene plan (.numbered name (studio.lastProgram + 1)) material engine studio _
          coherent distinct (first.trans second) (Nat.lt_of_le_of_lt first.lastHandle above) issued rfl ⟨rfl, rfl⟩
      · rw [wirings, List.map_append, List.getElem?_append_right (by simp)]
        simp [shader, made]
      · intro time counter
        obtain ⟨_, _, _, hooks⟩ := equip_frame scene material studio.shaders.length plan engine
        rw [Engine.installed, hooks, counter]
        simp [FrameHook.atFirst, LiveShader.wiring, freshShader, shader]

theorem step_onward (studio : PlainStudio) (coherent : Coherent studio) (next : Act) : Onward studio (step studio next) := by
  cases next with
  | build name scene options =>
      cases result : build name scene options studio with
      | mk answer after =>
          rw [step, result]
          cases answer with
          | error error => exact failed_onward name scene options studio after error coherent result
          | ok index => exact (built_onward name scene options studio after index coherent result).1
  | edit control setting => exact edit_onward studio coherent control setting
  | frame scene => exact (frame_onward scene studio coherent).1
  | dispose all shader => exact dispose_onward studio coherent all shader

theorem perform_onward (acts : List Act) (studio : PlainStudio) (coherent : Coherent studio) :
    Onward studio (perform acts studio) := by
  induction acts generalizing studio with
  | nil => exact .still coherent
  | cons next rest ih =>
      have now := step_onward studio coherent next
      exact now.trans (ih (step studio next) now.coherent)

-- Shader, slot and log have one value of a uniform.
structure Agrees (studio : PlainStudio) (shader : LiveShader) (name : String) (value : SlotValue) : Prop where
  held : shader.value? name = some value
  slot : studio.engine.uniform? shader.material name = some value
  last : (studio.engine.writesTo shader.material name).getLast? = some value

theorem mirrors_agree (studio : PlainStudio) (coherent : Coherent studio) (index : Nat) (name : String)
    (shader : LiveShader) (live : studio.shaders[index]? = some shader) (mirrors : Mirrors studio index name) :
    ∃ value, Agrees studio shader name value := by
  obtain ⟨shader', value, live', held, slot⟩ := mirrors
  obtain rfl : shader' = shader := Option.some.inj (live'.symm.trans live)
  refine ⟨value, held, slot, ?_⟩
  rw [← coherent.ledger]
  exact slot

theorem control_shows (studio : PlainStudio) (coherent : Coherent studio) (index : Nat) (shader : LiveShader)
    (live : studio.shaders[index]? = some shader) (tunable : Tunable) (member : tunable ∈ shader.tunables)
    (id : ControlId) (c : Control) (own : shader.control? tunable.name = some id)
    (present : studio.panel.control? id = some c) :
    shader.value? tunable.name = tunable.knob.slotValue? c.setting := by
  have wired : studio.wirings[index]? = some shader.wiring := by
    rw [wirings, List.getElem?_map, live, Option.map_some]
  obtain ⟨entry, found, rfl⟩ := Option.map_eq_some_iff.mp own
  have listed : entry ∈ shader.wiring.controls := List.mem_of_find?_eq_some found
  have key : entry.1 = tunable.name := by simpa using List.find?_some found
  have onPanel : c ∈ studio.panel.controls := List.mem_of_find?_eq_some present
  have number : c.id = entry.2 := by simpa using List.find?_some present
  obtain ⟨heard, bound⟩ := Prod.mk.inj ((coherent.panel.listed index _ entry wired listed).2 c onPanel number)
  obtain ⟨shader', value, live', held, shown⟩ := coherent.shows c onPanel index heard
  obtain rfl : shader' = shader := Option.some.inj (live'.symm.trans live)
  obtain ⟨other, wiring, wired', heard', served, annotated, name, knob⟩ := coherent.panel.serves c onPanel
  obtain rfl : index = other := by simpa [heard] using heard'
  obtain rfl : shader'.wiring = wiring := Option.some.inj (wired.symm.trans wired')
  have declared := coherent.declared _ (List.mem_of_getElem? wired)
  have one := declared.annotated served annotated
  rw [name, bound, key, knob] at one
  have same := head_unique _ _ _ _ declared.distinct one (declared.annotated tunable member)
  rw [bound, key] at held
  rw [held, ← ValueSource.knob.inj same, shown]

theorem runs_agree (lastProgram : Nat) (before after : List Act) (name : String) (scene : SceneId) (options : Options)
    (index : Nat) (built : PlainStudio)
    (success : build name scene options (perform before (fresh lastProgram)) = (.ok index, built)) :
    let studio := perform (before ++ .build name scene options :: after) (fresh lastProgram)
    ∃ plan shader, Blueprint.ofOptions options = .ok plan ∧ studio.shaders[index]? = some shader ∧
      shader.tunables = plan.tunables ∧
      (∀ tunable ∈ plan.tunables, ∃ value, Agrees studio shader tunable.name value ∧
        ∀ id c, shader.control? tunable.name = some id → studio.panel.control? id = some c →
          tunable.knob.slotValue? c.setting = some value) ∧
      ∀ time, plan.counter = some time → .frame scene ∈ after → ∃ value, Agrees studio shader time value := by
  intro studio
  have first := (perform_onward before (fresh lastProgram) (fresh_coherent lastProgram)).coherent
  obtain ⟨onward, plan, wiring, drawn, wired, tunables, counted⟩ :=
    built_onward name scene options _ built index first success
  have whole : studio = perform after built := by
    simp only [studio, perform, List.foldl_append, List.foldl_cons]
    exact congrArg (List.foldl step · after) (congrArg Prod.snd success)
  have later := perform_onward after built onward.coherent
  rw [← whole] at later
  have coherent := later.coherent
  have wired' := later.wirings index wiring wired
  obtain ⟨shader, live, rfl⟩ := wirings_get studio index wiring wired'
  refine ⟨plan, shader, drawn, live, tunables, ?_, ?_⟩
  · intro tunable member
    have annotated : tunable ∈ shader.wiring.tunables := by
      rw [tunables]
      exact member
    have mirrors := coherent.mirrors index shader.wiring wired' tunable annotated
    obtain ⟨value, agrees⟩ := mirrors_agree studio coherent index tunable.name shader live mirrors
    refine ⟨value, agrees, fun id c own present => ?_⟩
    rw [← control_shows studio coherent index shader live tunable annotated id c own present]
    exact agrees.held
  · intro time counter rendered
    obtain ⟨early, late, rfl⟩ := List.append_of_mem rendered
    have middle := perform_onward early built onward.coherent
    have frame := frame_onward scene (perform early built) middle.coherent
    have mirrors := frame.2 index _ time (middle.installed _ (counted time counter))
    have final := (perform_onward late _ frame.1.coherent).mirrors index time mirrors
    have same : studio = perform late (renderFrame scene (perform early built)) := by
      rw [whole]
      simp only [perform, List.foldl_append, List.foldl_cons]
      rfl
    rw [← same] at final
    exact mirrors_agree studio coherent index time shader live final

theorem edited_gain_agrees :
    let options := gainOptions.withTimeUniform "time"
    let studio := perform [.build "tint" ⟨1⟩ options, .edit ⟨2⟩ (.int 3), .frame ⟨1⟩, .dispose false 0] (fresh 0)
    ∃ shader gain time, studio.shaders[0]? = some shader ∧ Agrees studio shader "gain" gain ∧
      Agrees studio shader "time" time := by
  intro options studio
  have success : (build "tint" ⟨1⟩ options (perform [] (fresh 0))).1 = .ok 0 := by
    decide +kernel
  have plans : (Blueprint.ofOptions options).map (fun plan => (plan.tunables.map (·.name), plan.counter)) =
      .ok (["gain"], some "time") := by
    decide +kernel
  obtain ⟨built, whole⟩ : ∃ built, build "tint" ⟨1⟩ options (perform [] (fresh 0)) = (.ok 0, built) :=
    ⟨_, answer_pair _ _ success⟩
  obtain ⟨plan, shader, drawn, live, _, annotated, counted⟩ := runs_agree 0 []
    [.edit ⟨2⟩ (.int 3), .frame ⟨1⟩, .dispose false 0] "tint" ⟨1⟩ options 0 built whole
  rw [drawn] at plans
  obtain ⟨names, counter⟩ := Prod.mk.inj (Except.ok.inj plans)
  have named : "gain" ∈ plan.tunables.map (·.name) := by
    rw [names]
    exact List.mem_cons_self
  obtain ⟨tunable, member, gain⟩ := List.mem_map.mp named
  obtain ⟨value, agrees, _⟩ := annotated tunable member
  obtain ⟨time, agrees'⟩ := counted "time" counter (by simp)
  rw [gain] at agrees
  exact ⟨shader, value, time, live, agrees, agrees'⟩

end ShaderKnobs.Studio
