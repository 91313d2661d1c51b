import ShaderKnobs.Json.Document

set_option autoImplicit false

namespace ShaderKnobs

open Number (Double)

inductive Setting where
  | bool (value : Bool)
  | int (value : Int64)
  | float (value : Double)
  | color (r g b : Double) (a : Option Double)
  | vec3 (x y z : Double)
  | vec2 (x y : Double)
deriving DecidableEq

namespace Setting

def document : Setting → Document
  | .bool value => .bool value
  | .int value => .int value.toInt
  | .float value => .double value
  | .color r g b none => .object [("r", .double r), ("g", .double g), ("b", .double b)]
  | .color r g b (some a) =>
      .object [("r", .double r), ("g", .double g), ("b", .double b), ("a", .double a)]
  | .vec3 x y z => .object [("x", .double x), ("y", .double y), ("z", .double z)]
  | .vec2 x y => .object [("x", .double x), ("y", .double y)]

def numberText (value : Double) : String := Number.Layout.diagnostic.text value

def boolText (value : Bool) : String := if value then "true" else "false"

def diagnostic : Setting → String
  | .bool value => "Bool(" ++ boolText value ++ ")"
  | .int value => "Int(" ++ String.ofList (Number.intDigits value.toInt) ++ ")"
  | .float value => "Float(" ++ numberText value ++ ")"
  | .color r g b a =>
      "Color \x7b r: " ++ numberText r ++ ", g: " ++ numberText g ++ ", b: " ++ numberText b ++
        ", a: " ++ (match a with | none => "None" | some a => "Some(" ++ numberText a ++ ")") ++
        " \x7d"
  | .vec3 x y z =>
      "Vec3 \x7b x: " ++ numberText x ++ ", y: " ++ numberText y ++ ", z: " ++ numberText z ++
        " \x7d"
  | .vec2 x y => "Vec2 \x7b x: " ++ numberText x ++ ", y: " ++ numberText y ++ " \x7d"

end Setting

end ShaderKnobs
