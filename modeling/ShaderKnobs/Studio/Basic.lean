import ShaderKnobs.Engine.Basic
import ShaderKnobs.Panel.Basic
import ShaderKnobs.Studio.LiveShader
import ShaderKnobs.Studio.Notice

set_option autoImplicit false

namespace ShaderKnobs

inductive Record where
  | change (tag : Json) (event : ChangeEvent)
  | refused (error : PanelError)

structure Studio (E P : Type) where
  engine : E
  panel : P
  lastProgram : Nat
  shaders : List LiveShader
  notices : List Notice
  records : List Record

namespace Studio

variable {E P : Type}

def start (engine : E) (panel : P) : Studio E P := ⟨engine, panel, 0, [], [], []⟩

def notice (n : Notice) (studio : Studio E P) : Studio E P :=
  { studio with notices := studio.notices ++ [n] }

def record (r : Record) (studio : Studio E P) : Studio E P :=
  { studio with records := studio.records ++ [r] }

def updateShader (index : Nat) (f : LiveShader → LiveShader) (studio : Studio E P) : Studio E P :=
  { studio with shaders := studio.shaders.modify index f }

def freshProgram (name : String) (studio : Studio E P) : ProgramId × Studio E P :=
  let number := studio.lastProgram + 1
  (.numbered name number, { studio with lastProgram := number })

-- Disposes of a live shader's controls: the whole panel if `all`, else only its own section. Each mode
-- takes effect once. While listeners run the panel is taken and nothing is disposed of.
def dispose [PanelHost P] (panelFree all : Bool) (index : Nat) (studio : Studio E P) : Studio E P :=
  match studio.shaders[index]? with
  | none => studio
  | some shader =>
      if shader.panelDisposed || (!all && shader.sectionDisposed) then studio
      else if !panelFree then studio.notice (.panelBusy shader.name)
      else if all then
        updateShader index ({ · with sectionDisposed := true, panelDisposed := true })
          { studio with panel := PanelHost.dispose studio.panel }
      else
        updateShader index ({ · with sectionDisposed := true })
          { studio with panel := match shader.section_ with
              | some id => PanelHost.disposeSection id studio.panel
              | none => studio.panel }

-- A live shader follows a change: it takes the new value, and then so does the engine, unless a frame
-- has taken the engine.
def follow [EngineHost E] (engineFree : Bool) (event : ChangeEvent) (index : Nat)
    (studio : Studio E P) : Studio E P :=
  match studio.shaders[index]? with
  | none => studio
  | some shader =>
      match shader.reaction event with
      | .ignore => studio
      | .mismatch knob => studio.notice (.settingMismatch shader.name event.key knob event.setting)
      | .write value =>
          let followed := studio.updateShader index (·.assign event.key value)
          if engineFree then
            let engine := UniformTarget.apply shader.material event.key value followed.engine
            { followed with engine := engine }
          else followed.notice (.engineBusy shader.name event.key)

def hear [EngineHost E] [PanelHost P] (engineFree : Bool) (event : ChangeEvent)
    (studio : Studio E P) : Listener → Studio E P
  | .follow index => studio.follow engineFree event index
  | .observe tag target =>
      let recorded := studio.record (.change tag event)
      match target with
      | none => recorded
      | some (index, all) => recorded.dispose false all index

end Studio

end ShaderKnobs
