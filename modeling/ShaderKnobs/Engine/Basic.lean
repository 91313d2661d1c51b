import ShaderKnobs.Engine.Host

set_option autoImplicit false

namespace ShaderKnobs

structure Program where
  handle : ProgramHandle
  id : ProgramId
  vertex : String
  fragment : String

structure Material where
  handle : MaterialHandle
  name : String
  scene : SceneId
  program : ProgramHandle
  descriptor : MaterialDescriptor

structure SlotWrite where
  material : MaterialHandle
  name : String
  value : SlotValue
deriving DecidableEq

abbrev Slots := List ((MaterialHandle × String) × SlotValue)

namespace Slots

def put (slot : MaterialHandle × String) (value : SlotValue) : Slots → Slots
  | [] => [(slot, value)]
  | (other, old) :: rest =>
      if slot = other then (slot, value) :: rest else (other, old) :: put slot value rest

def get? (slot : MaterialHandle × String) : Slots → Option SlotValue
  | [] => none
  | (other, value) :: rest => if slot = other then some value else get? slot rest

end Slots

structure Engine where
  lastHandle : Nat
  registered : List ProgramId
  programs : List Program
  materials : List Material
  slots : Slots
  log : Array SlotWrite
  hooks : List (SceneId × FrameHook)
  frames : List (SceneId × Nat)

namespace Engine

def empty : Engine := ⟨0, [], [], [], [], #[], [], []⟩

def program? (handle : ProgramHandle) (engine : Engine) : Option Program :=
  engine.programs.find? (·.handle = handle)

def material? (handle : MaterialHandle) (engine : Engine) : Option Material :=
  engine.materials.find? (·.handle = handle)

def registerProgram (id : ProgramId) (vertex fragment : String) (engine : Engine) :
    Except EngineError ProgramHandle × Engine :=
  if id ∈ engine.registered then (.error (.programExists id), engine)
  else
    let handle : ProgramHandle := ⟨engine.lastHandle + 1⟩
    (.ok handle, { engine with
      lastHandle := handle.number
      registered := engine.registered ++ [id]
      programs := engine.programs ++ [⟨handle, id, vertex, fragment⟩] })

def createMaterial (name : String) (scene : SceneId) (program : ProgramHandle)
    (descriptor : MaterialDescriptor) (engine : Engine) :
    Except EngineError MaterialHandle × Engine :=
  if (engine.program? program).isNone then (.error (.unknownProgram program), engine)
  else
    let handle : MaterialHandle := ⟨engine.lastHandle + 1⟩
    (.ok handle, { engine with
      lastHandle := handle.number
      materials := engine.materials ++ [⟨handle, name, scene, program, descriptor⟩] })

def write (material : MaterialHandle) (name : String) (value : SlotValue) (engine : Engine) :
    Engine :=
  { engine with
    slots := Slots.put (material, name) value engine.slots
    log := engine.log.push ⟨material, name, value⟩ }

def onBeforeRender (scene : SceneId) (hook : FrameHook) (engine : Engine) : Engine :=
  { engine with hooks := engine.hooks ++ [(scene, hook)] }

def uniform? (material : MaterialHandle) (name : String) (engine : Engine) : Option SlotValue :=
  Slots.get? (material, name) engine.slots

def writesTo (material : MaterialHandle) (name : String) (engine : Engine) : List SlotValue :=
  (engine.log.toList.filter fun w => w.material = material ∧ w.name = name).map (·.value)

def hookCount (scene : SceneId) (engine : Engine) : Nat :=
  engine.hooks.countP fun entry => entry.1 = scene

def countOf (scene : SceneId) : List (SceneId × Nat) → Nat
  | [] => 0
  | (other, count) :: rest => if scene = other then count else countOf scene rest

def countUp (scene : SceneId) : List (SceneId × Nat) → List (SceneId × Nat)
  | [] => [(scene, 1)]
  | (other, count) :: rest =>
      if scene = other then (other, count + 1) :: rest else (other, count) :: countUp scene rest

def framesRendered (scene : SceneId) (engine : Engine) : Nat := countOf scene engine.frames

def endFrame (scene : SceneId) (hooks : List (SceneId × FrameHook)) (engine : Engine) : Engine :=
  { engine with hooks := hooks, frames := countUp scene engine.frames }

end Engine

instance : UniformTarget Engine where
  setBool material name value := Engine.write material name (.bool value)
  setInt material name value := Engine.write material name (.int value)
  setFloat material name value := Engine.write material name (.float value)
  setVec2 material name x y := Engine.write material name (.vec2 x y)
  setVec3 material name x y z := Engine.write material name (.vec3 x y z)
  setColor3 material name r g b := Engine.write material name (.color r g b)

instance : FrameHost Engine where
  registerProgram := Engine.registerProgram
  createMaterial := Engine.createMaterial
  onBeforeRender := Engine.onBeforeRender
  hooks := Engine.hooks
  endFrame := Engine.endFrame

end ShaderKnobs
