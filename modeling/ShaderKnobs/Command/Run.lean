import ShaderKnobs.Command.Arguments
import ShaderKnobs.Command.Inspect
import ShaderKnobs.Command.Simulate

set_option autoImplicit false

namespace ShaderKnobs

inductive CommandError where
  | unreadable (path : String) (cause : FileError)
  | scan (path : String) (cause : ScanError)
  | project (cause : ProjectError)
  | simulation (cause : SimulationError)
deriving DecidableEq

def CommandError.chain : CommandError → List String
  | .unreadable path cause => ["failed to read fragment shader " ++ path, cause.message]
  | .scan path cause => ("failed to scan " ++ path) :: cause.chain
  | .project cause => cause.chain
  | .simulation cause => cause.chain

structure Outcome where
  result : Except CommandError String
  notices : List Notice

namespace Request

def inspectSource (path : String) (asData : Bool) : Except FileError String → Outcome
  | .error e => ⟨.error (.unreadable path e), []⟩
  | .ok source =>
      match Tunable.scan source with
      | .error e => ⟨.error (.scan path e), []⟩
      | .ok tunables => ⟨.ok (Inspect.report asData path tunables), tunables.flatMap (·.notices)⟩

def simulateProject (edits : List Assignment) (frames : Nat) (asData : Bool) :
    Except ProjectError Project → Outcome
  | .error e => ⟨.error (.project e), []⟩
  | .ok project =>
      let (answer, notices) := Simulation.run project edits frames
      ⟨(answer.mapError .simulation).map (·.report asData), notices⟩

def run {m : Type → Type} [Monad m] (read : String → m (Except FileError String)) :
    Request → m Outcome
  | .inspect path asData => return inspectSource path asData (← read path)
  | .simulate path edits frames asData =>
      return simulateProject edits frames asData (← (Project.load read path).run)

end Request

end ShaderKnobs
