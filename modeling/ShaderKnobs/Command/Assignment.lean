import ShaderKnobs.Text.Blank
import ShaderKnobs.Text.Word

set_option autoImplicit false

namespace ShaderKnobs

structure Assignment where
  name : String
  literal : String
deriving DecidableEq

namespace Assignment

inductive Fault where
  | noSeparator (text : String)
  | emptyName
  | badName (name : String)
  | noValue (name : String)
deriving DecidableEq

def Fault.message : Fault → String
  | .noSeparator text => "expected NAME=LITERAL, got '" ++ text ++ "'"
  | .emptyName => "uniform name must not be empty"
  | .badName name => "'" ++ name ++ "' is not a valid uniform name"
  | .noValue name => "missing value for '" ++ name ++ "'"

def isNameChar (c : Char) : Bool := Text.isAlphanumeric c || c == '_'

def parse (text : String) : Except Fault Assignment :=
  let front := text.toList.takeWhile (· ≠ '=')
  match text.toList.dropWhile (· ≠ '=') with
  | [] => .error (.noSeparator text)
  | _ :: back =>
      let name := Text.trimChars front
      let literal := Text.trimChars back
      if name = [] then .error .emptyName
      else if !name.all isNameChar then .error (.badName (String.ofList name))
      else if literal = [] then .error (.noValue (String.ofList name))
      else .ok ⟨String.ofList name, String.ofList literal⟩

end Assignment

end ShaderKnobs
