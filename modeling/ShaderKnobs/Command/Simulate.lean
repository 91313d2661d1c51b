import ShaderKnobs.Command.Assignment
import ShaderKnobs.Engine.Basic
import ShaderKnobs.Panel.Basic
import ShaderKnobs.Project
import ShaderKnobs.Studio.Build
import ShaderKnobs.Studio.Run
import ShaderKnobs.Text.Column

set_option autoImplicit false

namespace ShaderKnobs

inductive EditError where
  | unknownUniform (name : String)
  | notLive (name : String)
  | badLiteral (name : String) (cause : LiteralError)
  | misfit (name literal : String) (knob : Knob)
  | refused (name : String) (cause : PanelError)
deriving DecidableEq

namespace EditError

def message : EditError → String
  | .unknownUniform name => "'" ++ name ++ "' is not an annotated uniform of this shader"
  | .notLive name => "control for '" ++ name ++ "' is no longer live"
  | .badLiteral name _ => "invalid value for '" ++ name ++ "'"
  | .misfit name literal knob =>
      "value " ++ literal ++ " does not fit the " ++ knob.name ++ " control of '" ++ name ++ "'"
  | .refused name _ => "panel rejected edit of '" ++ name ++ "'"

def chain : EditError → List String
  | .badLiteral name cause => [message (.badLiteral name cause), cause.message]
  | .refused name cause => [message (.refused name cause), cause.message]
  | other => [other.message]

end EditError

inductive SimulationError where
  | build (name fragmentPath : String) (cause : BuildError)
  | edit (cause : EditError)
deriving DecidableEq

def SimulationError.chain : SimulationError → List String
  | .build name fragmentPath cause =>
      ("failed to build shader '" ++ name ++ "' from " ++ fragmentPath) :: cause.chain
  | .edit cause => cause.chain

abbrev Bench := Studio Engine Panel

structure Simulation where
  name : String
  frames : Nat
  values : ValueTable

namespace Simulation

def scene : SceneId := ⟨1⟩

def editOf (index : Nat) (edit : Assignment) (bench : Bench) :
    Except EditError (ControlId × Setting) :=
  match (bench.shaders[index]?).bind (·.control? edit.name) with
  | none => .error (.unknownUniform edit.name)
  | some id =>
      match bench.panel.control? id with
      | none => .error (.notLive edit.name)
      | some control =>
          match Literal.parse edit.literal with
          | .error e => .error (.badLiteral edit.name e)
          | .ok data =>
              match control.spec.knob.setting? data with
              | none => .error (.misfit edit.name edit.literal control.spec.knob)
              | some setting => .ok (id, setting)

def applyEdit (index : Nat) (edit : Assignment) (bench : Bench) :
    Except EditError Unit × Bench :=
  match editOf index edit bench with
  | .error e => (.error e, bench)
  | .ok (id, setting) =>
      let (answer, bench) := bench.edit id setting
      (answer.mapError (.refused edit.name), bench)

def applyEdits (index : Nat) : List Assignment → Bench → Except EditError Unit × Bench
  | [], bench => (.ok (), bench)
  | edit :: rest, bench =>
      match applyEdit index edit bench with
      | (.ok _, bench) => applyEdits index rest bench
      | (.error e, bench) => (.error e, bench)

def run (project : Project) (edits : List Assignment) (frames : Nat) :
    Except SimulationError Simulation × List Notice :=
  match Studio.build project.name scene project.options (Studio.start Engine.empty Panel.empty) with
  | (.error e, bench) => (.error (.build project.name project.fragmentPath e), bench.notices)
  | (.ok index, bench) =>
      match applyEdits index edits bench with
      | (.error e, bench) => (.error (.edit e), bench.notices)
      | (.ok _, bench) =>
          let bench := bench.renderFrames scene frames
          let values := ((bench.shaders[index]?).map (·.values)).getD []
          (.ok ⟨project.name, bench.engine.framesRendered scene, values⟩, bench.notices)

def row (v : UniformValue) : Document :=
  .object [("name", .text v.name), ("source", .text v.source.name), ("value", v.current.document)]

def data (s : Simulation) : String := (Document.array (s.values.map row)).pretty ++ "\n"

def line (v : UniformValue) : String :=
  "  " ++ Text.column 20 v.name ++ " " ++ Text.column 7 v.source.name ++ " " ++
    v.current.display ++ "\n"

def table (s : Simulation) : String :=
  "Uniforms of '" ++ s.name ++ "' after " ++ toString s.frames ++ " frame(s):\n" ++
    String.join (s.values.map line)

def report (asData : Bool) (s : Simulation) : String := if asData then s.data else s.table

end Simulation

end ShaderKnobs
