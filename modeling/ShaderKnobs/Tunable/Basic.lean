import ShaderKnobs.Json.Document

set_option autoImplicit false

namespace ShaderKnobs

inductive UniformType where
  | bool
  | int
  | float
  | vec2
  | vec3
deriving DecidableEq

namespace UniformType

def name : UniformType → String
  | .bool => "bool"
  | .int => "int"
  | .float => "float"
  | .vec2 => "vec2"
  | .vec3 => "vec3"

def ofName? : String → Option UniformType
  | "bool" => some .bool
  | "int" => some .int
  | "float" => some .float
  | "vec2" => some .vec2
  | "vec3" => some .vec3
  | _ => none

end UniformType

abbrev Attributes := Fields

namespace Attributes

def value? (attributes : Attributes) : Option Json := Fields.get? "value" attributes

def number? (key : String) (attributes : Attributes) : Option Number.Double :=
  (Fields.get? key attributes).bind Json.number?

def hints (attributes : Attributes) : Fields := Fields.erase "value" attributes

end Attributes

structure Tunable where
  type : UniformType
  name : String
  attributes : Attributes
  line : Nat

def Tunable.document (a : Tunable) : Document :=
  .object [("type", .text a.type.name), ("name", .text a.name),
    ("config", (Json.object a.attributes).document), ("line", .int a.line)]

end ShaderKnobs
