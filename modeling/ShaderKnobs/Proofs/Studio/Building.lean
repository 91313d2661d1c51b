import ShaderKnobs.Proofs.Answer
import ShaderKnobs.Studio.Build
import ShaderKnobs.Proofs.Studio.Values

set_option autoImplicit false

namespace ShaderKnobs

namespace Studio

variable {E P : Type}

theorem notices_fold (notices : List Notice) (studio : Studio E P) :
    notices.foldl (fun s n => notice n s) studio = { studio with notices := studio.notices ++ notices } := by
  induction notices generalizing studio with
  | nil => simp
  | cons n rest ih =>
      rw [List.foldl_cons, ih]
      simp [notice]

theorem uniform_list_frame (name : String) (options : Options) (studio : Studio E P) :
    ∃ notices, noticeUniformList name options studio = { studio with notices := notices } := by
  simp only [noticeUniformList]
  split
  · exact ⟨_, rfl⟩
  · exact ⟨studio.notices, rfl⟩

-- The panel's part of a build on its own: the same requests in the same order, without notices.
def makeControls [PanelHost P] (home : SectionId) :
    List ControlSpec → List (String × ControlId) → P → List (String × ControlId) × P
  | [], made, panel => (made, panel)
  | spec :: rest, made, panel =>
      match PanelHost.addControl home spec panel with
      | (.ok id, panel) => makeControls home rest (made ++ [(spec.key, id)]) panel
      | (.error _, panel) => makeControls home rest made panel

def makeSection [PanelHost P] (name : String) (specs : List ControlSpec) (panel : P) :
    (Option SectionId × List (String × ControlId)) × P :=
  match PanelHost.addSection name panel with
  | (.error _, panel) => ((none, []), panel)
  | (.ok home, panel) =>
      let (controls, panel) := makeControls home specs [] panel
      ((some home, controls), panel)

def attachAll [PanelHost P] (index : Nat) (controls : List (String × ControlId)) (panel : P) : P :=
  controls.foldl (fun panel control => (PanelHost.listen control.2 (.follow index) panel).2) panel

theorem create_controls_eq [PanelHost P] (name : String) (home : SectionId) (specs : List ControlSpec)
    (made : List (String × ControlId)) (studio : Studio E P) :
    ∃ notices, createControls name home specs made studio =
      ((makeControls home specs made studio.panel).1,
        { studio with panel := (makeControls home specs made studio.panel).2, notices := notices }) := by
  induction specs generalizing made studio with
  | nil => exact ⟨studio.notices, rfl⟩
  | cons spec rest ih =>
      rw [createControls, makeControls]
      rcases PanelHost.addControl home spec studio.panel with ⟨error | id, panel⟩
      · exact ih made (notice (.controlRefused name spec.key error) { studio with panel := panel })
      · exact ih (made ++ [(spec.key, id)]) { studio with panel := panel }

theorem create_section_eq [PanelHost P] (name : String) (specs : List ControlSpec) (studio : Studio E P) :
    ∃ notices, createSection name specs studio =
      ((makeSection name specs studio.panel).1,
        { studio with panel := (makeSection name specs studio.panel).2, notices := notices }) := by
  rw [createSection, makeSection]
  rcases PanelHost.addSection name studio.panel with ⟨error | home, panel⟩
  · exact ⟨_, rfl⟩
  · obtain ⟨notices, controls⟩ := create_controls_eq name home specs [] { studio with panel := panel }
    dsimp only
    exact ⟨notices, by rw [controls]⟩

theorem attach_listeners_eq [PanelHost P] (name : String) (index : Nat)
    (controls : List (String × ControlId)) (studio : Studio E P) :
    ∃ notices, attachListeners name index controls studio =
      { studio with panel := attachAll index controls studio.panel, notices := notices } := by
  induction controls generalizing studio with
  | nil => exact ⟨studio.notices, rfl⟩
  | cons control rest ih =>
      obtain ⟨key, id⟩ := control
      rw [attachListeners, attachAll, List.foldl_cons]
      rcases PanelHost.listen id (.follow index) studio.panel with ⟨error | done, panel⟩
      · exact ih (notice (.listenerRefused name key error) { studio with panel := panel })
      · exact ih { studio with panel := panel }

-- What a build does to the engine once it has its material.
def equip [EngineHost E] (scene : SceneId) (material : MaterialHandle) (index : Nat) (plan : Blueprint)
    (engine : E) : E :=
  let written := (initialValues (plan.tunables.map (·.controlSpec))).foldl
    (fun engine entry => UniformTarget.apply material entry.name entry.current engine) engine
  match plan.counter with
  | none => written
  | some name => EngineHost.onBeforeRender scene (.counter index material name 0) written

def freshShader (name : String) (plan : Blueprint) (program : ProgramId) (material : MaterialHandle)
    (made : Option SectionId × List (String × ControlId)) : LiveShader where
  name := name
  program := program
  material := material
  uniforms := plan.uniforms
  tunables := plan.tunables
  section_ := made.1
  controls := made.2
  values := initialValues (plan.tunables.map (·.controlSpec)) ++ (plan.counter.map counterValue).toList
  sectionDisposed := false
  panelDisposed := false

theorem assemble_eq [EngineHost E] [PanelHost P] (name : String) (scene : SceneId) (plan : Blueprint)
    (program : ProgramId) (material : MaterialHandle) (studio : Studio E P) :
    let made := makeSection name (plan.tunables.map (·.controlSpec)) studio.panel
    ∃ notices, assemble name scene plan program material studio =
      (studio.shaders.length, { studio with
        engine := equip scene material studio.shaders.length plan studio.engine
        panel := attachAll studio.shaders.length made.1.2 made.2
        notices := notices
        shaders := studio.shaders ++ [freshShader name plan program material made.1] }) := by
  intro made
  let noted : Studio E P := { studio with notices := studio.notices ++ plan.tunables.flatMap (·.notices) }
  obtain ⟨notices, sectioned⟩ := create_section_eq name (plan.tunables.map (·.controlSpec)) noted
  let written := installCounter scene material studio.shaders.length plan.counter
    (writeValues material (initialValues (plan.tunables.map (·.controlSpec)))
      { studio with panel := made.2, notices := notices })
  obtain ⟨notices', attached⟩ := attach_listeners_eq name studio.shaders.length made.1.2 written
  have panel : written.panel = made.2 := by
    simp only [written]
    cases plan.counter <;> rfl
  refine ⟨notices', ?_⟩
  unfold assemble
  rw [notices_fold]
  dsimp only
  rw [sectioned]
  change (studio.shaders.length, ({ attachListeners name studio.shaders.length made.1.2 written with
    shaders := (attachListeners name studio.shaders.length made.1.2 written).shaders ++
      [freshShader name plan program material made.1] } : Studio E P)) = _
  rw [attached, panel]
  simp only [written, installCounter, writeValues, equip]
  cases plan.counter <;> rfl

inductive BuildEnd [EngineHost E] [PanelHost P] (name : String) (scene : SceneId) (options : Options)
    (studio : Studio E P) : Except BuildError Nat → Studio E P → Prop where
  | noBlueprint (error : BuildError) (notices : List Notice)
      (drawn : Blueprint.ofOptions options = .error error) :
      BuildEnd name scene options studio (.error error) { studio with notices := notices }
  | noProgram (plan : Blueprint) (cause : EngineError) (engine : E) (notices : List Notice)
      (drawn : Blueprint.ofOptions options = .ok plan)
      (registered : EngineHost.registerProgram (.numbered name (studio.lastProgram + 1)) plan.vertex plan.fragment
        studio.engine = (.error cause, engine)) :
      BuildEnd name scene options studio (.error (.engine name cause))
        { studio with engine := engine, lastProgram := studio.lastProgram + 1, notices := notices }
  | noMaterial (plan : Blueprint) (program : ProgramHandle) (cause : EngineError) (between engine : E)
      (notices : List Notice) (drawn : Blueprint.ofOptions options = .ok plan)
      (registered : EngineHost.registerProgram (.numbered name (studio.lastProgram + 1)) plan.vertex plan.fragment
        studio.engine = (.ok program, between))
      (created : EngineHost.createMaterial name scene program ⟨plan.uniforms, options.material⟩ between =
        (.error cause, engine)) :
      BuildEnd name scene options studio (.error (.engine name cause))
        { studio with engine := engine, lastProgram := studio.lastProgram + 1, notices := notices }
  | built (plan : Blueprint) (program : ProgramHandle) (material : MaterialHandle) (between engine : E)
      (notices : List Notice) (drawn : Blueprint.ofOptions options = .ok plan)
      (registered : EngineHost.registerProgram (.numbered name (studio.lastProgram + 1)) plan.vertex plan.fragment
        studio.engine = (.ok program, between))
      (created : EngineHost.createMaterial name scene program ⟨plan.uniforms, options.material⟩ between =
        (.ok material, engine)) :
      BuildEnd name scene options studio (.ok studio.shaders.length)
        (let made := makeSection name (plan.tunables.map (·.controlSpec)) studio.panel
         { studio with
            engine := equip scene material studio.shaders.length plan engine
            panel := attachAll studio.shaders.length made.1.2 made.2
            lastProgram := studio.lastProgram + 1
            notices := notices
            shaders := studio.shaders ++
              [freshShader name plan (.numbered name (studio.lastProgram + 1)) material made.1] })

theorem build_end [EngineHost E] [PanelHost P] (name : String) (scene : SceneId) (options : Options)
    (studio : Studio E P) :
    BuildEnd name scene options studio (build name scene options studio).1 (build name scene options studio).2 := by
  obtain ⟨notices, noted⟩ := uniform_list_frame name options studio
  unfold build
  rw [noted]
  dsimp only
  split
  · next error drawn => exact .noBlueprint error notices drawn
  · next plan drawn =>
      unfold createMaterial freshProgram
      dsimp only
      cases registered : EngineHost.registerProgram (.numbered name (studio.lastProgram + 1)) plan.vertex
          plan.fragment studio.engine with
      | mk answer between =>
          cases answer with
          | error cause => exact .noProgram plan cause between notices drawn registered
          | ok program =>
              dsimp only
              cases created : EngineHost.createMaterial name scene program ⟨plan.uniforms, options.material⟩ between with
              | mk answer engine =>
                  cases answer with
                  | error cause => exact .noMaterial plan program cause between engine notices drawn registered created
                  | ok material =>
                      dsimp only
                      obtain ⟨notices', assembled⟩ := assemble_eq name scene plan
                        (.numbered name (studio.lastProgram + 1)) material
                        { studio with engine := engine, lastProgram := studio.lastProgram + 1, notices := notices }
                      rw [assembled]
                      exact .built plan program material between engine notices' drawn registered created

end Studio

end ShaderKnobs
