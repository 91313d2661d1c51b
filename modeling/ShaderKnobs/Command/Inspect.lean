import ShaderKnobs.Knob.Basic
import ShaderKnobs.Text.Column

set_option autoImplicit false

namespace ShaderKnobs.Inspect

structure Row where
  name : String
  type : UniformType
  line : Nat
  kind : Knob
  initial : Setting
  params : Fields

namespace Row

def ofTunable (t : Tunable) : Row := ⟨t.name, t.type, t.line, t.knob, t.initial, t.params⟩

def document (row : Row) : Document :=
  .object [("name", .text row.name), ("type", .text row.type.name), ("line", .int row.line),
    ("kind", .text row.kind.name), ("initial", row.initial.document),
    ("params", (Json.object row.params).document)]

def paramsText (params : Fields) : String :=
  if params.isEmpty then "" else " params=" ++ (Json.object params).compact

def text (row : Row) : String :=
  "  " ++ Text.column 20 row.name ++ " " ++ Text.column 6 row.type.name ++
    " line=" ++ Text.column 4 (toString row.line) ++ " kind=" ++ Text.column 7 row.kind.name ++
    " initial=" ++ row.initial.document.compact ++ paramsText row.params ++ "\n"

end Row

def data (rows : List Row) : String := (Document.array (rows.map Row.document)).pretty ++ "\n"

def table (path : String) (rows : List Row) : String :=
  if rows.isEmpty then "No annotated uniforms found in " ++ path ++ "\n"
  else "Annotated uniforms in " ++ path ++ ":\n" ++ String.join (rows.map Row.text)

def report (asData : Bool) (path : String) (tunables : List Tunable) : String :=
  let rows := tunables.map Row.ofTunable
  if asData then data rows else table path rows

end ShaderKnobs.Inspect
