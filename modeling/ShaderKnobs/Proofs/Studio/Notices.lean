import ShaderKnobs.Proofs.Studio.Building

set_option autoImplicit false

namespace ShaderKnobs.Studio

variable {E P : Type}

theorem notice_keeps (n : Notice) (studio : Studio E P) : studio.notices <+: (studio.notice n).notices :=
  List.prefix_append _ _

theorem create_controls_keeps [PanelHost P] (name : String) (home : SectionId) (specs : List ControlSpec)
    (made : List (String × ControlId)) (studio : Studio E P) :
    studio.notices <+: (createControls name home specs made studio).2.notices := by
  induction specs generalizing made studio with
  | nil => exact List.prefix_refl _
  | cons spec rest ih =>
      rw [createControls]
      rcases PanelHost.addControl home spec studio.panel with ⟨error | id, panel⟩
      · exact (notice_keeps _ { studio with panel := panel }).trans (ih made _)
      · exact ih _ { studio with panel := panel }

theorem create_section_keeps [PanelHost P] (name : String) (specs : List ControlSpec) (studio : Studio E P) :
    studio.notices <+: (createSection name specs studio).2.notices := by
  rw [createSection]
  rcases PanelHost.addSection name studio.panel with ⟨error | home, panel⟩
  · exact notice_keeps _ { studio with panel := panel }
  · exact create_controls_keeps name home specs [] { studio with panel := panel }

theorem attach_listeners_keeps [PanelHost P] (name : String) (index : Nat) (controls : List (String × ControlId))
    (studio : Studio E P) : studio.notices <+: (attachListeners name index controls studio).notices := by
  induction controls generalizing studio with
  | nil => exact List.prefix_refl _
  | cons control rest ih =>
      rw [attachListeners]
      rcases PanelHost.listen control.2 (.follow index) studio.panel with ⟨error | done, panel⟩
      · exact (notice_keeps _ { studio with panel := panel }).trans (ih _)
      · exact ih { studio with panel := panel }

theorem assemble_keeps [EngineHost E] [PanelHost P] (name : String) (scene : SceneId) (plan : Blueprint)
    (program : ProgramId) (material : MaterialHandle) (studio : Studio E P) :
    studio.notices <+: (assemble name scene plan program material studio).2.notices := by
  let noted : Studio E P := { studio with notices := studio.notices ++ plan.tunables.flatMap (·.notices) }
  have first : studio.notices <+: noted.notices := List.prefix_append _ _
  simp only [assemble, notices_fold]
  have second := create_section_keeps name (plan.tunables.map (·.controlSpec)) noted
  let made := createSection name (plan.tunables.map (·.controlSpec)) noted
  let written := installCounter scene material studio.shaders.length plan.counter
    (writeValues material (initialValues (plan.tunables.map (·.controlSpec))) made.2)
  have same : written.notices = made.2.notices := by
    simp only [written, installCounter]
    cases plan.counter <;> rfl
  have third := attach_listeners_keeps name studio.shaders.length made.1.2 written
  rw [same] at third
  exact first.trans (second.trans third)

theorem build_keeps [EngineHost E] [PanelHost P] (name : String) (scene : SceneId) (options : Options)
    (studio : Studio E P) : studio.notices <+: (build name scene options studio).2.notices := by
  have first : studio.notices <+: (noticeUniformList name options studio).notices := by
    simp only [noticeUniformList]
    split
    · exact notice_keeps _ studio
    · exact List.prefix_refl _
  refine first.trans ?_
  simp only [build]
  generalize noticeUniformList name options studio = noted
  cases Blueprint.ofOptions options with
  | error _ => exact List.prefix_refl _
  | ok plan =>
      have second : (createMaterial name scene options plan noted).2.notices = noted.notices := by
        simp only [createMaterial, freshProgram]
        split
        · rfl
        · split <;> rfl
      dsimp only
      revert second
      rcases createMaterial name scene options plan noted with ⟨error | ⟨program, material⟩, made⟩
      · exact fun second => second ▸ List.prefix_refl _
      · exact fun second => second ▸ assemble_keeps name scene plan program material made

end ShaderKnobs.Studio
