import ShaderKnobs.Json.Decode
import ShaderKnobs.Json.Document
import ShaderKnobs.Text.Blank

set_option autoImplicit false

namespace ShaderKnobs

inductive Stage where
  | vertex
  | fragment
deriving DecidableEq

def Stage.name : Stage → String
  | .vertex => "vertex"
  | .fragment => "fragment"

structure Options where
  vertex : Option String
  fragment : Option String
  timeUniform : Option String
  uniforms : Option (List String)
  material : Fields

namespace Options

def ofSources (vertex fragment : String) : Options :=
  ⟨some vertex, some fragment, none, none, []⟩

def withTimeUniform (name : String) (options : Options) : Options :=
  { options with timeUniform := some name }

def withMaterial (key : String) (value : Json) (options : Options) : Options :=
  { options with material := Fields.put key value options.material }

-- The name of the frame counter's uniform without blanks around it; a blank name is none.
def counterName? (options : Options) : Option String :=
  (options.timeUniform.map Text.trim).filter (· ≠ "")

def optionalText : Option String → Document
  | none => Json.null.document
  | some value => .text value

def document (options : Options) : Document :=
  .object ([("vertexShader", optionalText options.vertex),
      ("fragmentShader", optionalText options.fragment),
      ("timeUniform", match options.timeUniform with
        | none => Json.null.document
        | some name => .object [("name", .text name)]),
      ("uniforms", match options.uniforms with
        | none => Json.null.document
        | some names => .array (names.map .text))]
    ++ Json.fieldDocuments options.material)

def namedKeys : List String := ["vertexShader", "fragmentShader", "timeUniform", "uniforms"]

def timeUniform? : Raw → Option String
  | .object entries => do Raw.required? Raw.string? "name" (← Raw.keyed? entries)
  | .array [name] => name.string?
  | _ => none

def ofRaw? (real : RealReader) : Raw → Option Options
  | .object entries => do
      let entries ← Raw.keyed? entries
      let vertex ← Raw.optional? Raw.string? "vertexShader" entries
      let fragment ← Raw.optional? Raw.string? "fragmentShader" entries
      let timeUniform ← Raw.optional? timeUniform? "timeUniform" entries
      let uniforms ← Raw.optional? Raw.strings? "uniforms" entries
      let material ← Raw.fields? (Raw.json? real (Json.maxDepth - 1)) (entries.filter (·.1 ∉ namedKeys))
      some ⟨vertex, fragment, timeUniform, uniforms, material⟩
  | _ => none

def read? (real : RealReader) (text : String) : Option Options := (Raw.read? text).bind (ofRaw? real)

end Options

end ShaderKnobs
