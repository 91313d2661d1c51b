import ShaderKnobs.Engine.Host
import ShaderKnobs.Options
import ShaderKnobs.Panel.Host
import ShaderKnobs.Tunable.Scan

set_option autoImplicit false

namespace ShaderKnobs

inductive ValueSource where
  | knob (knob : Knob)
  | frameCounter
deriving DecidableEq

def ValueSource.name : ValueSource → String
  | .knob k => k.name
  | .frameCounter => "frames"

structure UniformValue where
  name : String
  source : ValueSource
  current : SlotValue
deriving DecidableEq

abbrev ValueTable := List UniformValue

namespace ValueTable

def get? (name : String) (table : ValueTable) : Option UniformValue :=
  table.find? (·.name = name)

-- Gives a uniform a value; names that the table does not have are left alone.
def assign (name : String) (value : SlotValue) (table : ValueTable) : ValueTable :=
  table.map fun entry => if entry.name = name then { entry with current := value } else entry

end ValueTable

inductive BuildError where
  | missingSource (stage : Stage)
  | scan (error : ScanError)
  | duplicateUniform (name : String)
  | engine (shader : String) (error : EngineError)
deriving DecidableEq

namespace BuildError

def message : BuildError → String
  | .missingSource stage => "missing " ++ stage.name ++ " shader source"
  | .scan error => error.message
  | .duplicateUniform name =>
      "uniform '" ++ name ++ "' collides with another uniform of the material"
  | .engine shader error => "render engine rejected shader '" ++ shader ++ "': " ++ error.message

def chain : BuildError → List String
  | .scan error => error.chain
  | .engine shader error => [message (.engine shader error), error.message]
  | other => [other.message]

end BuildError

def transformUniforms : List String :=
  ["world", "worldView", "worldViewProjection", "view", "projection"]

def uniformNames (taken : List String) : List String → Except BuildError (List String)
  | [] => .ok taken
  | name :: rest =>
      if name ∈ taken then .error (.duplicateUniform name) else uniformNames (taken ++ [name]) rest

structure Blueprint where
  vertex : String
  fragment : String
  tunables : List Tunable
  counter : Option String
  uniforms : List String

def requireSource (stage : Stage) : Option String → Except BuildError String
  | some text => if Text.isBlankText text then .error (.missingSource stage) else .ok text
  | none => .error (.missingSource stage)

def Blueprint.ofOptions (options : Options) : Except BuildError Blueprint := do
  let vertex ← requireSource .vertex options.vertex
  let fragment ← requireSource .fragment options.fragment
  let tunables ← (Tunable.scan fragment).mapError .scan
  let counter := options.counterName?
  let uniforms ← uniformNames transformUniforms (tunables.map (·.name) ++ counter.toList)
  .ok ⟨vertex, fragment, tunables, counter, uniforms⟩

structure LiveShader where
  name : String
  program : ProgramId
  material : MaterialHandle
  uniforms : List String
  tunables : List Tunable
  section_ : Option SectionId
  controls : List (String × ControlId)
  values : ValueTable
  sectionDisposed : Bool
  panelDisposed : Bool

inductive Reaction where
  | ignore
  | mismatch (knob : Knob)
  | write (value : SlotValue)
deriving DecidableEq

namespace LiveShader

def control? (key : String) (shader : LiveShader) : Option ControlId :=
  (shader.controls.find? (·.1 = key)).map (·.2)

def value? (name : String) (shader : LiveShader) : Option SlotValue :=
  (ValueTable.get? name shader.values).map (·.current)

def isDisposed (shader : LiveShader) : Bool := shader.sectionDisposed || shader.panelDisposed

-- A change concerns the uniform that its key names. Keys without a uniform and the frame counter are
-- ignored; a setting of another shape than the uniform's knob is a mismatch.
def reaction (event : ChangeEvent) (shader : LiveShader) : Reaction :=
  match ValueTable.get? event.key shader.values with
  | none => .ignore
  | some entry =>
      match entry.source with
      | .frameCounter => .ignore
      | .knob knob =>
          match knob.slotValue? event.setting with
          | none => .mismatch knob
          | some value => .write value

def assign (name : String) (value : SlotValue) (shader : LiveShader) : LiveShader :=
  { shader with values := ValueTable.assign name value shader.values }

end LiveShader

def initialValues (specs : List ControlSpec) : ValueTable :=
  specs.filterMap fun spec =>
    (spec.knob.slotValue? spec.initial).map fun value => ⟨spec.key, .knob spec.knob, value⟩

def counterValue (name : String) : UniformValue :=
  ⟨name, .frameCounter, .float (Number.Binary.ofInt Number.single 0)⟩

end ShaderKnobs
