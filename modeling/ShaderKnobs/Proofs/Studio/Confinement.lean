import ShaderKnobs.Studio.Refusals
import ShaderKnobs.Proofs.Studio.Blueprint
import ShaderKnobs.Proofs.Studio.Wiring

set_option autoImplicit false

namespace ShaderKnobs.Studio

variable {E P : Type}

-- What can come to a studio whose panel does as it likes: any event at any shader's listener, and
-- frames.
inductive Happening where
  | change (listener : Nat) (engineFree : Bool) (event : ChangeEvent)
  | frame (scene : SceneId)

def happen [FrameHost E] [EditHost P] (studio : Studio E P) : Happening → Studio E P
  | .change listener engineFree event => studio.hear engineFree event (.follow listener)
  | .frame scene => renderFrame scene studio

theorem wirings_happen [FrameHost E] [EditHost P] (history : List Happening) (studio : Studio E P) :
    (history.foldl happen studio).wirings = studio.wirings := by
  induction history generalizing studio with
  | nil => rfl
  | cons happening rest ih =>
      rw [List.foldl_cons, ih]
      cases happening with
      | change listener engineFree event => exact wirings_hear engineFree event (.follow listener) studio
      | frame scene => exact wirings_render_frame scene studio

theorem entry_refuses (plan : Blueprint) (distinct : (plan.heads.map (·.1)).Nodup) (event : ChangeEvent)
    (shader : LiveShader) (heads : ValueTable.heads shader.values = plan.heads) (entry : UniformValue)
    (found : ValueTable.get? event.key shader.values = some entry)
    (refuses : ∀ knob, entry.source = .knob knob → knob.slotValue? event.setting = none) :
    ∀ tunable ∈ plan.tunables, tunable.name = event.key → tunable.knob.slotValue? event.setting = none := by
  intro tunable member same
  have head := ValueTable.get_head event.key shader.values entry found
  rw [heads] at head
  have own := plan.tunable_head tunable member
  rw [same] at own
  exact refuses _ (head_unique plan.heads event.key _ _ distinct head own)

theorem follow_confined [EngineHost E] (options : Options) (plan : Blueprint) (drawn : Drawn options plan)
    (engineFree : Bool) (event : ChangeEvent) (index : Nat) (studio : Studio E P) (shader : LiveShader)
    (live : studio.shaders[index]? = some shader) (heads : ValueTable.heads shader.values = plan.heads) :
    let next := studio.follow engineFree event index
    (∃ tunable ∈ plan.tunables, ∃ value, tunable.name = event.key ∧
      tunable.knob.slotValue? event.setting = some value ∧ plan.counter ≠ some event.key ∧
      next.engine = (if engineFree then UniformTarget.apply shader.material event.key value studio.engine
        else studio.engine) ∧
      next.shaders = studio.shaders.modify index (·.assign event.key value)) ∨
    ((∀ tunable ∈ plan.tunables, tunable.name = event.key → tunable.knob.slotValue? event.setting = none) ∧
      next.engine = studio.engine ∧ next.shaders = studio.shaders) := by
  have distinct : (plan.heads.map (·.1)).Nodup := drawn.heads_distinct
  intro next
  simp only [next, follow, live, LiveShader.reaction]
  cases found : ValueTable.get? event.key shader.values with
  | none =>
      refine .inr ⟨fun tunable member same => ?_, rfl, rfl⟩
      have own := plan.tunable_head tunable member
      rw [← heads] at own distinct
      obtain ⟨value, present⟩ := ValueTable.get_of_head _ _ _ distinct own
      rw [same, found] at present
      cases present
  | some entry =>
      cases source : entry.source with
      | frameCounter =>
          refine .inr ⟨entry_refuses plan distinct event shader heads entry found fun knob same => ?_, by simp [source],
            by simp [source]⟩
          rw [source] at same
          cases same
      | knob knob =>
          cases written : knob.slotValue? event.setting with
          | none =>
              refine .inr ⟨entry_refuses plan distinct event shader heads entry found fun knob' same => ?_,
                by simp [source, written, notice], by simp [source, written, notice]⟩
              rw [source] at same
              cases same
              exact written
          | some value =>
              have head := ValueTable.get_head event.key shader.values entry found
              rw [heads, source] at head
              obtain ⟨tunable, member, name, sameKnob⟩ := drawn.knob_head event.key knob head
              refine .inl ⟨tunable, member, value, name, by rw [sameKnob, written], fun counter => ?_, ?_, ?_⟩
              · have other := plan.counter_head event.key counter
                cases head_unique plan.heads event.key _ _ distinct head other
              · simp only [source, written]
                split <;> rfl
              · simp only [source, written]
                split <;> rfl

theorem events_confined [FrameHost E] [EditHost P] (name : String) (scene : SceneId) (options : Options)
    (studio built : Studio E P) (index : Nat) (success : build name scene options studio = (.ok index, built))
    (history : List Happening) :
    let after := history.foldl happen built
    ∃ plan original shader, Blueprint.ofOptions options = .ok plan ∧
      built.shaders[index]? = some original ∧ after.shaders[index]? = some shader ∧
      shader.wiring = original.wiring ∧ shader.tunables = plan.tunables ∧
      ValueTable.heads shader.values = plan.heads ∧
      ∀ engineFree event,
        let next := after.hear engineFree event (.follow index)
        (∃ tunable ∈ plan.tunables, ∃ value, tunable.name = event.key ∧
          tunable.knob.slotValue? event.setting = some value ∧
          value.knob = tunable.knob ∧ value.knob.uniformType = tunable.type ∧ plan.counter ≠ some event.key ∧
          next.engine = (if engineFree then UniformTarget.apply original.material event.key value after.engine
            else after.engine) ∧
          next.shaders = after.shaders.modify index (·.assign event.key value)) ∨
        ((∀ tunable ∈ plan.tunables, tunable.name = event.key → tunable.knob.slotValue? event.setting = none) ∧
          next.engine = after.engine ∧ next.shaders = after.shaders) := by
  intro after
  obtain ⟨plan, program, material, made, drawn, rfl, shaders⟩ :=
    build_ok_shaders name scene options studio built index success
  have original : built.shaders[studio.shaders.length]? = some (freshShader name plan program material made) := by
    rw [shaders]
    simp
  have wired : after.wirings[studio.shaders.length]? = some (freshShader name plan program material made).wiring := by
    rw [wirings_happen history built, wirings, List.getElem?_map, original]
    rfl
  obtain ⟨shader, live, same⟩ := wirings_get after _ _ wired
  have heads : ValueTable.heads shader.values = plan.heads :=
    (congrArg Wiring.heads same).trans (fresh_shader_heads name plan program material made)
  have sameMaterial : shader.material = material := congrArg Wiring.material same
  refine ⟨plan, _, shader, drawn, original, live, same, congrArg Wiring.tunables same, heads, ?_⟩
  intro engineFree event
  rcases follow_confined options plan (blueprint_drawn options plan drawn) engineFree event _ after shader live heads
    with ⟨tunable, member, value, key, written, notCounter, engine, shaders'⟩ | untouched
  · rw [sameMaterial] at engine
    have kind := Knob.slot_value_knob _ _ value written
    refine .inl ⟨tunable, member, value, key, written, kind, ?_, notCounter, engine, shaders'⟩
    rw [kind]
    exact tunable.knob_type
  · exact .inr untouched

-- A panel that binds the control of `gain` to a key that no uniform has.
def renamingPanel : Studio Engine WaryPanel :=
  .start Engine.empty ⟨Panel.empty, { Refusals.none with renamed := [("gain", "level")] }⟩

theorem renamed_events_ignored :
    ∃ built, build "tint" ⟨1⟩ gainOptions renamingPanel = (.ok 0, built) ∧
      ∀ event, event.key = "level" → (built.hear true event (.follow 0)).engine = built.engine := by
  have success : (build "tint" ⟨1⟩ gainOptions renamingPanel).1 = .ok 0 := by
    decide +kernel
  have names : (Blueprint.ofOptions gainOptions).map (fun plan => plan.tunables.map (·.name)) = .ok ["gain"] := by
    decide +kernel
  obtain ⟨built, whole⟩ : ∃ built, build "tint" ⟨1⟩ gainOptions renamingPanel = (.ok 0, built) :=
    ⟨_, answer_pair _ _ success⟩
  obtain ⟨plan, _, _, drawn, _, _, _, _, _, confined⟩ :=
    events_confined "tint" ⟨1⟩ gainOptions renamingPanel built 0 whole []
  rw [drawn] at names
  have only : plan.tunables.map (·.name) = ["gain"] := Except.ok.inj names
  refine ⟨built, whole, fun event key => ?_⟩
  rcases confined true event with ⟨tunable, member, _, same, _⟩ | ⟨_, untouched, _⟩
  · have named : tunable.name ∈ plan.tunables.map (·.name) := List.mem_map_of_mem member
    rw [only, same, key] at named
    simp at named
  · exact untouched

end ShaderKnobs.Studio
