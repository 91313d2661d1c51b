import ShaderKnobs.Tunable.Basic
import ShaderKnobs.Json.Decode

set_option autoImplicit false

namespace ShaderKnobs.Tunable

def type? (raw : Raw) : Option UniformType := raw.choice?.bind UniformType.ofName?

-- The attributes are an object inside that of the declaration.
def attributes? (real : RealReader) (raw : Raw) : Option Attributes :=
  (raw.json? real (Json.maxDepth - 1)).bind Json.fields?

def line? (real : RealReader) (raw : Raw) : Option Nat := (raw.json? real 0).bind Json.natural?

-- Entries with other keys are passed over.
def ofRaw? (real : RealReader) : Raw → Option Tunable
  | .object entries => do
      let entries ← Raw.keyed? entries
      let type ← Raw.required? type? "type" entries
      let name ← Raw.required? Raw.string? "name" entries
      let attributes ← Raw.required? (attributes? real) "config" entries
      let line ← Raw.required? (line? real) "line" entries
      some ⟨type, name, attributes, line⟩
  | .array [type, name, config, line] => do
      some ⟨← type? type, ← name.string?, ← attributes? real config, ← line? real line⟩
  | _ => none

def read? (real : RealReader) (text : String) : Option Tunable := (Raw.read? text).bind (ofRaw? real)

end ShaderKnobs.Tunable
