import ShaderKnobs.Json.Document

set_option autoImplicit false

namespace ShaderKnobs

open Number (Single)

inductive SlotValue where
  | bool (value : Bool)
  | int (value : Int32)
  | float (value : Single)
  | vec2 (x y : Single)
  | vec3 (x y z : Single)
  | color (r g b : Single)
deriving DecidableEq

namespace SlotValue

def typeName : SlotValue → String
  | .bool _ => "bool"
  | .int _ => "int"
  | .float _ => "float"
  | .vec2 _ _ => "vec2"
  | .vec3 _ _ _ => "vec3"
  | .color _ _ _ => "color3"

def valueDocument : SlotValue → Document
  | .bool value => .bool value
  | .int value => .int value.toInt
  | .float value => .single value
  | .vec2 x y => .array [.single x, .single y]
  | .vec3 x y z => .array [.single x, .single y, .single z]
  | .color r g b => .array [.single r, .single g, .single b]

def document (value : SlotValue) : Document :=
  .object [("type", .text value.typeName), ("value", value.valueDocument)]

def numberText (value : Single) : String := Number.Layout.plain.text value

def display : SlotValue → String
  | .bool value => if value then "true" else "false"
  | .int value => String.ofList (Number.intDigits value.toInt)
  | .float value => numberText value
  | .vec2 x y => "(" ++ numberText x ++ ", " ++ numberText y ++ ")"
  | .vec3 x y z => "(" ++ numberText x ++ ", " ++ numberText y ++ ", " ++ numberText z ++ ")"
  | .color r g b => "rgb(" ++ numberText r ++ ", " ++ numberText g ++ ", " ++ numberText b ++ ")"

end SlotValue

end ShaderKnobs
