import ShaderKnobs.Studio.Run
import ShaderKnobs.Proofs.Studio.Building

set_option autoImplicit false

namespace ShaderKnobs

structure Wiring where
  name : String
  program : ProgramId
  material : MaterialHandle
  uniforms : List String
  tunables : List Tunable
  section_ : Option SectionId
  controls : List (String × ControlId)
  heads : List (String × ValueSource)

def LiveShader.wiring (shader : LiveShader) : Wiring where
  name := shader.name
  program := shader.program
  material := shader.material
  uniforms := shader.uniforms
  tunables := shader.tunables
  section_ := shader.section_
  controls := shader.controls
  heads := ValueTable.heads shader.values

theorem LiveShader.wiring_assign (name : String) (value : SlotValue) (shader : LiveShader) :
    (shader.assign name value).wiring = shader.wiring := by
  simp only [assign, wiring, ValueTable.heads_assign]

namespace Studio

variable {E P : Type}

def wirings (studio : Studio E P) : List Wiring := studio.shaders.map (·.wiring)

theorem wirings_get (studio : Studio E P) (index : Nat) (wiring : Wiring)
    (wired : studio.wirings[index]? = some wiring) :
    ∃ shader, studio.shaders[index]? = some shader ∧ shader.wiring = wiring := by
  simpa [wirings] using wired

theorem wirings_update (index : Nat) (f : LiveShader → LiveShader) (studio : Studio E P)
    (kept : ∀ shader, (f shader).wiring = shader.wiring) :
    (studio.updateShader index f).wirings = studio.wirings := by
  apply List.ext_getElem?
  intro i
  simp only [wirings, updateShader, List.getElem?_map, List.getElem?_modify]
  cases studio.shaders[i]? with
  | none => rfl
  | some shader => split <;> simp [kept]

theorem wirings_dispose [PanelHost P] (panelFree all : Bool) (index : Nat) (studio : Studio E P) :
    (studio.dispose panelFree all index).wirings = studio.wirings := by
  simp only [dispose]
  split
  · rfl
  · split
    · rfl
    · split
      · rfl
      · split <;> exact wirings_update index _ _ (fun _ => rfl)

theorem dispose_frame [PanelHost P] (panelFree all : Bool) (index : Nat) (studio : Studio E P) :
    (studio.dispose panelFree all index).engine = studio.engine ∧
      (studio.dispose panelFree all index).lastProgram = studio.lastProgram ∧
      (panelFree = true → (studio.dispose panelFree all index).notices = studio.notices) := by
  simp only [dispose]
  cases studio.shaders[index]? with
  | none => exact ⟨rfl, rfl, fun _ => rfl⟩
  | some shader =>
      dsimp only
      by_cases done : (shader.panelDisposed || (!all && shader.sectionDisposed)) = true
      · rw [if_pos done]
        exact ⟨rfl, rfl, fun _ => rfl⟩
      · rw [if_neg done]
        cases panelFree with
        | false => exact ⟨rfl, rfl, fun free => by cases free⟩
        | true => cases all <;> exact ⟨rfl, rfl, fun _ => rfl⟩

theorem wirings_follow [EngineHost E] (engineFree : Bool) (event : ChangeEvent) (index : Nat) (studio : Studio E P) :
    (studio.follow engineFree event index).wirings = studio.wirings := by
  unfold follow
  split
  · rfl
  · split
    · rfl
    · rfl
    · have kept := fun value => wirings_update (E := E) (P := P) index (·.assign event.key value) studio
        (LiveShader.wiring_assign event.key value)
      dsimp only
      split <;> exact kept _

theorem wirings_hear [EngineHost E] [PanelHost P] (engineFree : Bool) (event : ChangeEvent) (listener : Listener)
    (studio : Studio E P) : (studio.hear engineFree event listener).wirings = studio.wirings := by
  cases listener with
  | follow index => exact wirings_follow engineFree event index studio
  | observe tag target =>
      cases target with
      | none => rfl
      | some target => exact wirings_dispose false target.2 target.1 _

theorem wirings_edit_while [EngineHost E] [EditHost P] (engineFree : Bool) (control : ControlId)
    (setting : Setting) (studio : Studio E P) :
    (editWhile engineFree control setting studio).2.wirings = studio.wirings := by
  simp only [editWhile]
  split
  · rfl
  · next panel event listeners _ =>
      suffices heard : ∀ (listeners : List Listener) (s : Studio E P),
          (listeners.foldl (hear engineFree event) s).wirings = s.wirings from heard listeners _
      intro listeners
      induction listeners with
      | nil => exact fun _ => rfl
      | cons listener rest ih =>
          intro s
          exact (ih _).trans (wirings_hear engineFree event listener s)

theorem wirings_edit_on_record [EngineHost E] [EditHost P] (control : ControlId) (setting : Setting)
    (studio : Studio E P) : (editOnRecord control setting studio).wirings = studio.wirings := by
  rw [← wirings_edit_while (E := E) (P := P) false control setting studio, editOnRecord]
  rcases editWhile false control setting studio with ⟨error | done, edited⟩ <;> rfl

theorem wirings_run_deed [EngineHost E] [EditHost P] (deed : HookDeed) (studio : Studio E P) :
    (studio.runDeed deed).wirings = studio.wirings := by
  cases deed with
  | call call => rfl
  | edit control setting => exact wirings_edit_on_record control setting studio

theorem wirings_run_hook [EngineHost E] [EditHost P] (hook : FrameHook) (studio : Studio E P) :
    (runHook hook studio).2.wirings = studio.wirings := by
  cases hook with
  | counter index material name frame => exact wirings_update index _ _ (LiveShader.wiring_assign name _)
  | script deeds turn =>
      suffices done : ∀ (deeds : List HookDeed) (s : Studio E P), (deeds.foldl runDeed s).wirings = s.wirings from
        done (deeds turn) studio
      intro deeds
      induction deeds with
      | nil => exact fun _ => rfl
      | cons deed rest ih => exact fun s => (ih _).trans (wirings_run_deed deed s)

theorem wirings_run_hooks [EngineHost E] [EditHost P] (scene : SceneId) (hooks : List (SceneId × FrameHook))
    (studio : Studio E P) : (runHooks scene hooks studio).2.wirings = studio.wirings := by
  induction hooks generalizing studio with
  | nil => rfl
  | cons entry rest ih =>
      obtain ⟨home, hook⟩ := entry
      simp only [runHooks]
      split
      · exact (ih _).trans (wirings_run_hook hook studio)
      · exact ih studio

theorem wirings_render_frame [FrameHost E] [EditHost P] (scene : SceneId) (studio : Studio E P) :
    (renderFrame scene studio).wirings = studio.wirings :=
  wirings_run_hooks scene (FrameHost.hooks studio.engine) studio

theorem fresh_shader_heads (name : String) (plan : Blueprint) (program : ProgramId) (material : MaterialHandle)
    (made : Option SectionId × List (String × ControlId)) :
    ValueTable.heads (freshShader name plan program material made).values = plan.heads :=
  blueprint_values_heads plan

theorem build_ok_shaders [EngineHost E] [PanelHost P] (name : String) (scene : SceneId) (options : Options)
    (studio built : Studio E P) (index : Nat) (success : build name scene options studio = (.ok index, built)) :
    ∃ plan program material made, Blueprint.ofOptions options = .ok plan ∧ index = studio.shaders.length ∧
      built.shaders = studio.shaders ++ [freshShader name plan program material made] := by
  have ending := build_end name scene options studio
  rw [success] at ending
  cases ending with
  | built plan program material between engine notices drawn registered created =>
      exact ⟨plan, _, material, _, drawn, rfl, rfl⟩

end Studio

end ShaderKnobs
