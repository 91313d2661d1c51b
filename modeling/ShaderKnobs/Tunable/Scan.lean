import ShaderKnobs.Tunable.Basic
import ShaderKnobs.Tunable.Pattern
import ShaderKnobs.Literal.Parser
import ShaderKnobs.Text.Lines

set_option autoImplicit false

namespace ShaderKnobs

inductive ScanError where
  | badLiteral (name : String) (line : Nat) (cause : LiteralError)
  | unsupportedType (name : String) (line : Nat) (type : String)
  | duplicate (name : String) (line : Nat)
deriving DecidableEq

namespace ScanError

def name : ScanError → String
  | .badLiteral name _ _ => name
  | .unsupportedType name _ _ => name
  | .duplicate name _ => name

def line : ScanError → Nat
  | .badLiteral _ line _ => line
  | .unsupportedType _ line _ => line
  | .duplicate _ line => line

def message : ScanError → String
  | .badLiteral name line cause =>
      "invalid ts() config for uniform '" ++ name ++ "' on line " ++ toString line ++ ": " ++
        cause.message
  | .unsupportedType name line type =>
      "uniform '" ++ name ++ "' on line " ++ toString line ++ " has unsupported type '" ++ type ++
        "'; expected bool, int, float, vec2 or vec3"
  | .duplicate name line =>
      "uniform '" ++ name ++ "' on line " ++ toString line ++
        " is already annotated earlier in the shader"

def chain : ScanError → List String
  | .badLiteral name line cause => [message (.badLiteral name line cause), cause.message]
  | other => [other.message]

end ScanError

namespace Tunable

def ofParts (seen : List String) (line : Nat) (parts : Parts) : Except ScanError Tunable := do
  let name := String.ofList parts.name
  match UniformType.ofName? (String.ofList parts.type) with
  | none => .error (.unsupportedType name line (String.ofList parts.type))
  | some type =>
      match Literal.parseObject (String.ofList parts.literal) with
      | .error cause => .error (.badLiteral name line cause)
      | .ok attributes =>
          if name ∈ seen then .error (.duplicate name line)
          else .ok ⟨type, name, attributes, line⟩

-- The annotations of lines that start at a given number, after those in `done`, which is reversed.
def scanLines (done : List Tunable) (line : Nat) :
    List (List Char) → Except ScanError (List Tunable)
  | [] => .ok done.reverse
  | text :: rest =>
      match matchLine? text with
      | none => scanLines done (line + 1) rest
      | some parts =>
          match ofParts (done.map (·.name)) line parts with
          | .error e => .error e
          | .ok tunable => scanLines (tunable :: done) (line + 1) rest

def scan (source : String) : Except ScanError (List Tunable) :=
  scanLines [] 1 (Text.lines source.toList)

end Tunable

end ShaderKnobs
