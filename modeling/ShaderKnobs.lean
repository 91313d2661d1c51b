import ShaderKnobs.Engine.Basic
import ShaderKnobs.Knob.Decode
import ShaderKnobs.Main
import ShaderKnobs.Proofs.Studio.FailedBuild
import ShaderKnobs.Proofs.Studio.Confinement
import ShaderKnobs.Studio.Refusals
import ShaderKnobs.Tunable.Decode
import ShaderKnobs.Proofs.Engine.Slots
import ShaderKnobs.Proofs.Panel.Growth
import ShaderKnobs.Proofs.Studio.Linkage
import ShaderKnobs.Proofs.Studio.Coherence
import ShaderKnobs.Proofs.Studio.CoherentBuild
import ShaderKnobs.Proofs.Studio.Run
import ShaderKnobs.Proofs.Literal.Gap
import ShaderKnobs.Proofs.Literal.Quoted
import ShaderKnobs.Proofs.Json.Fields
import ShaderKnobs.Proofs.Literal.Numerical
import ShaderKnobs.Proofs.Literal.Sequence
import ShaderKnobs.Proofs.Literal.Exact
import ShaderKnobs.Proofs.Tunable.Scan
import ShaderKnobs.Proofs.Studio.Dropped
import ShaderKnobs.Proofs.Command.Simulate
import ShaderKnobs.Proofs.Literal.Reprint
import ShaderKnobs.Proofs.Panel.History
import ShaderKnobs.Proofs.Studio.Disposal
import ShaderKnobs.Proofs.Studio.FrameCount
import ShaderKnobs.Proofs.Studio.Neighbours
import ShaderKnobs.Proofs.Studio.Hosts
import ShaderKnobs.Proofs.Studio.BuildAnswer
import ShaderKnobs.Proofs.Studio.Interview
import ShaderKnobs.Proofs.Studio.UniformList
import ShaderKnobs.Proofs.Studio.Marks
import ShaderKnobs.Proofs.Engine.History
import ShaderKnobs.Proofs.Json.Token
import ShaderKnobs.Proofs.Json.Image
import ShaderKnobs.Proofs.Knob.Reread
import ShaderKnobs.Proofs.Options.Reread
import ShaderKnobs.Proofs.Tunable.Reread
import ShaderKnobs.Proofs.Literal.Inside
import ShaderKnobs.Proofs.Literal.Safety
import ShaderKnobs.Proofs.Tunable.Closing
import ShaderKnobs.Proofs.Studio.SingleEdit
import ShaderKnobs.Proofs.Studio.Furnished
import ShaderKnobs.Proofs.Command.Naming
import ShaderKnobs.Proofs.Command.FiniteRun
import ShaderKnobs.Proofs.Tunable.LineEnds
import ShaderKnobs.Proofs.Studio.FrameSteps
import ShaderKnobs.Proofs.Literal.Radix
import ShaderKnobs.Proofs.Knob.Integers
