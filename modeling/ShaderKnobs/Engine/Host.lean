import ShaderKnobs.Panel.Host

set_option autoImplicit false

namespace ShaderKnobs

structure SceneId where
  number : Nat
deriving DecidableEq

structure ProgramHandle where
  number : Nat
deriving DecidableEq

structure MaterialHandle where
  number : Nat
deriving DecidableEq

structure ProgramId where
  text : String
deriving DecidableEq

-- The id of the program with a given number; the number keeps ids of equal names apart.
def ProgramId.numbered (name : String) (number : Nat) : ProgramId :=
  ⟨name ++ "#" ++ toString number⟩

structure MaterialDescriptor where
  uniforms : List String
  options : Fields

class UniformTarget (T : Type) where
  setBool : MaterialHandle → String → Bool → T → T
  setInt : MaterialHandle → String → Int32 → T → T
  setFloat : MaterialHandle → String → Number.Single → T → T
  setVec2 : MaterialHandle → String → Number.Single → Number.Single → T → T
  setVec3 : MaterialHandle → String → Number.Single → Number.Single → Number.Single → T → T
  setColor3 : MaterialHandle → String → Number.Single → Number.Single → Number.Single → T → T

def UniformTarget.apply {T : Type} [UniformTarget T] (material : MaterialHandle) (name : String)
    (value : SlotValue) (target : T) : T :=
  match value with
  | .bool value => setBool material name value target
  | .int value => setInt material name value target
  | .float value => setFloat material name value target
  | .vec2 x y => setVec2 material name x y target
  | .vec3 x y z => setVec3 material name x y z target
  | .color r g b => setColor3 material name r g b target

inductive TargetCall where
  | setBool (material : MaterialHandle) (name : String) (value : Bool)
  | setInt (material : MaterialHandle) (name : String) (value : Int32)
  | setFloat (material : MaterialHandle) (name : String) (value : Number.Single)
  | setVec2 (material : MaterialHandle) (name : String) (x y : Number.Single)
  | setVec3 (material : MaterialHandle) (name : String) (x y z : Number.Single)
  | setColor3 (material : MaterialHandle) (name : String) (r g b : Number.Single)
  | apply (material : MaterialHandle) (name : String) (value : SlotValue)

def TargetCall.run {T : Type} [UniformTarget T] : TargetCall → T → T
  | .setBool material name value => UniformTarget.setBool material name value
  | .setInt material name value => UniformTarget.setInt material name value
  | .setFloat material name value => UniformTarget.setFloat material name value
  | .setVec2 material name x y => UniformTarget.setVec2 material name x y
  | .setVec3 material name x y z => UniformTarget.setVec3 material name x y z
  | .setColor3 material name r g b => UniformTarget.setColor3 material name r g b
  | .apply material name value => UniformTarget.apply material name value

inductive HookDeed where
  | call (call : TargetCall)
  | edit (control : ControlId) (setting : Setting)

/-- What runs before a frame: the counter of a live shader's frames, or any other hook by what it does
in each of its calls. A hook cannot read the target it is given, so that its deeds are its own. -/
inductive FrameHook where
  | counter (shader : Nat) (material : MaterialHandle) (name : String) (frame : UInt64)
  | script (deeds : Nat → List HookDeed) (turn : Nat)

inductive EngineError where
  | programExists (id : ProgramId)
  | unknownProgram (handle : ProgramHandle)
  | backend (text : String)
deriving DecidableEq

def EngineError.message : EngineError → String
  | .programExists id => "program '" ++ id.text ++ "' is already registered"
  | .unknownProgram handle =>
      "unknown program handle ProgramHandle(" ++ toString handle.number ++ ")"
  | .backend text => text

class EngineHost (E : Type) extends UniformTarget E where
  registerProgram : ProgramId → String → String → E → Except EngineError ProgramHandle × E
  createMaterial :
    String → SceneId → ProgramHandle → MaterialDescriptor → E →
      Except EngineError MaterialHandle × E
  onBeforeRender : SceneId → FrameHook → E → E

-- An engine that can be asked for frames: its hooks in order, and the end of a frame, which leaves the
-- hooks as the frame has changed them.
class FrameHost (E : Type) extends EngineHost E where
  hooks : E → List (SceneId × FrameHook)
  endFrame : SceneId → List (SceneId × FrameHook) → E → E

end ShaderKnobs
