import ShaderKnobs.Json.Decode
import ShaderKnobs.Knob.Basic

set_option autoImplicit false

namespace ShaderKnobs

namespace Setting

def color? (data : Json) : Option Setting := do
  let r ← data.numberField? "r"
  let g ← data.numberField? "g"
  let b ← data.numberField? "b"
  let a ← Json.optional? Json.number? (data.field? "a")
  some (.color r g b a)

def ofJson? : Json → Option Setting
  | .bool value => some (.bool value)
  | .whole n =>
      if n.value < 2 ^ 63 then some (.int (Int64.ofInt n.value))
      else some (.float (Number.Binary.ofInt Number.double n.value))
  | .real x => some (.float (.finite x))
  | data =>
      ((color? data).or (Knob.point3.setting? data)).or (Knob.point2.setting? data)

def read? (text : String) : Option Setting := (Json.read? text).bind ofJson?

end Setting

def Knob.read? (text : String) : Option Knob :=
  ((Raw.read? text).bind Raw.choice?).bind Knob.ofName?

end ShaderKnobs
