import ShaderKnobs.Knob.Basic
import ShaderKnobs.Tunable.Decode
import ShaderKnobs.Proofs.Json.Image
import ShaderKnobs.Proofs.Tunable.Scan

set_option autoImplicit false

namespace ShaderKnobs.Tunable

open Json (Occurs maxDepth)
open Piece (spelled)
open Raw (ReadAs json?)

def entries (t : Tunable) (config : Raw) (line : Number.Numeral) : List (String × Raw) :=
  [("type", .text (spelled t.type.name)), ("name", .text (spelled t.name)), ("config", config),
    ("line", .number line true)]

end ShaderKnobs.Tunable
