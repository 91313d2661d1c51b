import ShaderKnobs.Tunable.Basic
import ShaderKnobs.Knob.Setting
import ShaderKnobs.Knob.SlotValue

set_option autoImplicit false

namespace ShaderKnobs

open Number (Binary Double Single single double)

inductive Knob where
  | toggle
  | integer
  | scalar
  | point2
  | point3
  | color
deriving DecidableEq

namespace Knob

def name : Knob → String
  | .toggle => "toggle"
  | .integer => "integer"
  | .scalar => "scalar"
  | .point2 => "point2"
  | .point3 => "point3"
  | .color => "color"

def ofName? : String → Option Knob
  | "toggle" => some .toggle
  | "integer" => some .integer
  | "scalar" => some .scalar
  | "point2" => some .point2
  | "point3" => some .point3
  | "color" => some .color
  | _ => none

def uniformType : Knob → UniformType
  | .toggle => .bool
  | .integer => .int
  | .scalar => .float
  | .point2 => .vec2
  | .point3 => .vec3
  | .color => .vec3

def isColorShaped (data : Json) : Bool :=
  (data.numberField? "r").isSome && (data.numberField? "g").isSome && (data.numberField? "b").isSome

def forUniform (type : UniformType) (attributes : Attributes) : Knob :=
  match type with
  | .bool => .toggle
  | .int => .integer
  | .float => .scalar
  | .vec2 => .point2
  | .vec3 =>
      if ((Attributes.value? attributes).map isColorShaped).getD false then .color else .point3

def saturate (n : Int64) : Int32 :=
  Int32.ofInt (Number.clamp (-2 ^ 31) (2 ^ 31 - 1) n.toInt)

def roundToInt64 (x : Double) : Int64 := x.roundHalfUp.toInt64

def narrow (x : Double) : Single := x.convert single

def channel (x : Double) : Single := narrow (x.over ⟨255, 1⟩)

def slotValue? : Knob → Setting → Option SlotValue
  | .toggle, .bool value => some (.bool value)
  | .integer, .int value => some (.int (saturate value))
  | .integer, .float value => some (.int (saturate (roundToInt64 value)))
  | .scalar, .float value => some (.float (narrow value))
  | .scalar, .int value => some (.float (Binary.ofInt single value.toInt))
  | .point2, .vec2 x y => some (.vec2 (narrow x) (narrow y))
  | .point3, .vec3 x y z => some (.vec3 (narrow x) (narrow y) (narrow z))
  | .color, .color r g b _ => some (.color (channel r) (channel g) (channel b))
  | _, _ => none

def accepts (knob : Knob) (setting : Setting) : Bool := (knob.slotValue? setting).isSome

def setting? (knob : Knob) (data : Json) : Option Setting :=
  match knob with
  | .toggle => data.bool?.map .bool
  | .integer => data.number?.map fun x => .int (roundToInt64 x)
  | .scalar => data.number?.map .float
  | .point2 => do
      let x ← data.numberField? "x"
      let y ← data.numberField? "y"
      some (.vec2 x y)
  | .point3 => do
      let x ← data.numberField? "x"
      let y ← data.numberField? "y"
      let z ← data.numberField? "z"
      some (.vec3 x y z)
  | .color => do
      let r ← data.numberField? "r"
      let g ← data.numberField? "g"
      let b ← data.numberField? "b"
      some (.color r g b (data.numberField? "a"))

def zeroDouble : Double := Binary.ofInt double 0

def zero : Knob → Setting
  | .toggle => .bool false
  | .integer => .int 0
  | .scalar => .float zeroDouble
  | .point2 => .vec2 zeroDouble zeroDouble
  | .point3 => .vec3 zeroDouble zeroDouble zeroDouble
  | .color => .color zeroDouble zeroDouble zeroDouble none

-- The initial setting. A toggle follows the truth of the annotation's value; any other knob starts at
-- zero if the value is missing or has another shape.
def initial (knob : Knob) (attributes : Attributes) : Setting :=
  match knob with
  | .toggle => .bool (((Attributes.value? attributes).map Json.truthy).getD false)
  | other => ((Attributes.value? attributes).bind other.setting?).getD other.zero

def misfit? (knob : Knob) (attributes : Attributes) : Option Json :=
  match knob with
  | .toggle => none
  | other => (Attributes.value? attributes).filter fun data => (other.setting? data).isNone

-- What a control is told beside its initial setting: all attributes but the value. The step of an
-- integer knob is rounded, and one if there is none.
def params (knob : Knob) (attributes : Attributes) : Fields :=
  let hints := Attributes.hints attributes
  match knob with
  | .integer =>
      let step := (Attributes.number? "step" attributes).getD (Binary.ofInt double 1)
      Fields.put "step" (Json.ofInt64 (roundToInt64 step)) hints
  | _ => hints

end Knob

def Tunable.knob (a : Tunable) : Knob := Knob.forUniform a.type a.attributes

def Tunable.initial (a : Tunable) : Setting := a.knob.initial a.attributes

def Tunable.params (a : Tunable) : Fields := a.knob.params a.attributes

end ShaderKnobs
