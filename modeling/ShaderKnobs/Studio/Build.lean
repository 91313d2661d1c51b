import ShaderKnobs.Studio.Basic

set_option autoImplicit false

namespace ShaderKnobs.Studio

variable {E P : Type}

def createMaterial [EngineHost E] (name : String) (scene : SceneId) (options : Options)
    (plan : Blueprint) (studio : Studio E P) :
    Except BuildError (ProgramId × MaterialHandle) × Studio E P :=
  let (id, studio) := studio.freshProgram name
  match EngineHost.registerProgram id plan.vertex plan.fragment studio.engine with
  | (.error e, engine) => (.error (.engine name e), { studio with engine := engine })
  | (.ok program, engine) =>
      let descriptor : MaterialDescriptor := ⟨plan.uniforms, options.material⟩
      match EngineHost.createMaterial name scene program descriptor engine with
      | (.error e, engine) => (.error (.engine name e), { studio with engine := engine })
      | (.ok material, engine) => (.ok (id, material), { studio with engine := engine })

def createControls [PanelHost P] (name : String) (home : SectionId) :
    List ControlSpec → List (String × ControlId) → Studio E P →
      List (String × ControlId) × Studio E P
  | [], made, studio => (made, studio)
  | spec :: rest, made, studio =>
      match PanelHost.addControl home spec studio.panel with
      | (.ok id, panel) =>
          createControls name home rest (made ++ [(spec.key, id)]) { studio with panel := panel }
      | (.error e, panel) =>
          createControls name home rest made
            (notice (.controlRefused name spec.key e) { studio with panel := panel })

def createSection [PanelHost P] (name : String) (specs : List ControlSpec) (studio : Studio E P) :
    (Option SectionId × List (String × ControlId)) × Studio E P :=
  match PanelHost.addSection name studio.panel with
  | (.error e, panel) =>
      ((none, []), notice (.sectionRefused name e) { studio with panel := panel })
  | (.ok home, panel) =>
      let (controls, studio) := createControls name home specs [] { studio with panel := panel }
      ((some home, controls), studio)

def writeValues [EngineHost E] (material : MaterialHandle) (values : ValueTable)
    (studio : Studio E P) : Studio E P :=
  let write (engine : E) (entry : UniformValue) : E :=
    UniformTarget.apply material entry.name entry.current engine
  { studio with engine := values.foldl write studio.engine }

def attachListeners [PanelHost P] (name : String) (index : Nat) :
    List (String × ControlId) → Studio E P → Studio E P
  | [], studio => studio
  | (key, control) :: rest, studio =>
      match PanelHost.listen control (.follow index) studio.panel with
      | (.ok _, panel) => attachListeners name index rest { studio with panel := panel }
      | (.error e, panel) =>
          attachListeners name index rest
            (notice (.listenerRefused name key e) { studio with panel := panel })

def installCounter [EngineHost E] (scene : SceneId) (material : MaterialHandle) (index : Nat)
    (counter : Option String) (studio : Studio E P) : Studio E P :=
  match counter with
  | none => studio
  | some name => { studio with
      engine := EngineHost.onBeforeRender scene (.counter index material name 0) studio.engine }

def assemble [EngineHost E] [PanelHost P] (name : String) (scene : SceneId) (plan : Blueprint)
    (program : ProgramId) (material : MaterialHandle) (studio : Studio E P) : Nat × Studio E P :=
  let index := studio.shaders.length
  let specs := plan.tunables.map (·.controlSpec)
  let studio := plan.tunables.flatMap (·.notices) |>.foldl (fun s n => notice n s) studio
  let ((home, controls), studio) := createSection name specs studio
  let values := initialValues specs
  let studio := writeValues material values studio
  let studio := installCounter scene material index plan.counter studio
  let studio := attachListeners name index controls studio
  let shader : LiveShader := {
    name := name
    program := program
    material := material
    uniforms := plan.uniforms
    tunables := plan.tunables
    section_ := home
    controls := controls
    values := values ++ (plan.counter.map counterValue).toList
    sectionDisposed := false
    panelDisposed := false }
  (index, { studio with shaders := studio.shaders ++ [shader] })

def noticeUniformList (name : String) (options : Options) (studio : Studio E P) : Studio E P :=
  if options.uniforms.isSome then studio.notice (.uniformListIgnored name) else studio

def build [EngineHost E] [PanelHost P] (name : String) (scene : SceneId) (options : Options)
    (studio : Studio E P) : Except BuildError Nat × Studio E P :=
  let studio := noticeUniformList name options studio
  match Blueprint.ofOptions options with
  | .error e => (.error e, studio)
  | .ok plan =>
      match createMaterial name scene options plan studio with
      | (.error e, studio) => (.error e, studio)
      | (.ok (program, material), studio) =>
          let (index, studio) := assemble name scene plan program material studio
          (.ok index, studio)

end ShaderKnobs.Studio
