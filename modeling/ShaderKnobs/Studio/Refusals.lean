import ShaderKnobs.Engine.Basic
import ShaderKnobs.Panel.Basic

set_option autoImplicit false

namespace ShaderKnobs

structure Refusals where
  sections : Bool
  keys : List String
  renamed : List (String × String)
  unheard : List String
  program : Option String
  material : Option String

def Refusals.none : Refusals := ⟨false, [], [], [], .none, .none⟩

structure WaryPanel where
  panel : Panel
  refusals : Refusals

namespace WaryPanel

def inside {α : Type} (request : Panel → Except PanelError α × Panel) (wary : WaryPanel) :
    Except PanelError α × WaryPanel :=
  let (answer, panel) := request wary.panel
  (answer, { wary with panel := panel })

def addSection (title : String) (wary : WaryPanel) : Except PanelError SectionId × WaryPanel :=
  if wary.refusals.sections then (.error .disposed, wary) else wary.inside (Panel.addSection title)

def rename (key : String) (wary : WaryPanel) : String :=
  ((wary.refusals.renamed.find? (·.1 = key)).map (·.2)).getD key

def addControl (home : SectionId) (spec : ControlSpec) (wary : WaryPanel) :
    Except PanelError ControlId × WaryPanel :=
  if spec.key ∈ wary.refusals.keys then (.error (.cannotBind spec.key "refused"), wary)
  else wary.inside (Panel.addControl home { spec with key := wary.rename spec.key })

def listen (id : ControlId) (listener : Listener) (wary : WaryPanel) :
    Except PanelError Unit × WaryPanel :=
  match wary.panel.control? id with
  | some c =>
      if c.spec.key ∈ wary.refusals.unheard then (.error (.unknownControl id), wary)
      else wary.inside (Panel.listen id listener)
  | none => wary.inside (Panel.listen id listener)

end WaryPanel

instance : EditHost WaryPanel where
  addSection := WaryPanel.addSection
  addControl := WaryPanel.addControl
  listen := WaryPanel.listen
  disposeSection id wary := { wary with panel := wary.panel.disposeSection id }
  dispose wary := { wary with panel := wary.panel.dispose }
  edit id setting wary :=
    (wary.panel.edit id setting).map fun (panel, heard) => ({ wary with panel := panel }, heard)

structure WaryEngine where
  engine : Engine
  refusals : Refusals

namespace WaryEngine

def refuseFor {α : Type} (reason : Option String) (request : Engine → Except EngineError α × Engine)
    (wary : WaryEngine) : Except EngineError α × WaryEngine :=
  match reason with
  | some text => (.error (.backend text), wary)
  | none =>
      let (answer, engine) := request wary.engine
      (answer, { wary with engine := engine })

end WaryEngine

instance : UniformTarget WaryEngine where
  setBool material name value wary :=
    { wary with engine := UniformTarget.setBool material name value wary.engine }
  setInt material name value wary :=
    { wary with engine := UniformTarget.setInt material name value wary.engine }
  setFloat material name value wary :=
    { wary with engine := UniformTarget.setFloat material name value wary.engine }
  setVec2 material name x y wary :=
    { wary with engine := UniformTarget.setVec2 material name x y wary.engine }
  setVec3 material name x y z wary :=
    { wary with engine := UniformTarget.setVec3 material name x y z wary.engine }
  setColor3 material name r g b wary :=
    { wary with engine := UniformTarget.setColor3 material name r g b wary.engine }

instance : FrameHost WaryEngine where
  registerProgram id vertex fragment wary :=
    wary.refuseFor wary.refusals.program (Engine.registerProgram id vertex fragment)
  createMaterial name scene program descriptor wary :=
    wary.refuseFor wary.refusals.material (Engine.createMaterial name scene program descriptor)
  onBeforeRender scene hook wary := { wary with engine := wary.engine.onBeforeRender scene hook }
  hooks wary := wary.engine.hooks
  endFrame scene hooks wary := { wary with engine := wary.engine.endFrame scene hooks }

end ShaderKnobs
