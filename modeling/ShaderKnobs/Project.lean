import ShaderKnobs.Files.Tree
import ShaderKnobs.Options
import ShaderKnobs.Toml.Data
import ShaderKnobs.Toml.Reader

set_option autoImplicit false

namespace ShaderKnobs

structure Description where
  name : String
  vertex : String
  fragment : String
  timeUniform : Option String
  material : Fields

namespace Description

open Toml (Node Table)

def keys : List String := ["name", "vertex", "fragment", "time_uniform", "material"]

def text? (key : String) (table : Table) : Option String := (table.get? key).bind Node.text?

def timeUniform? : Node → Option String
  | .table _ entries => text? "name" entries
  | .array (first :: _) => first.text?
  | _ => none

def material? : Node → Option Fields
  | .table _ entries => Table.fields? entries
  | .scalar (.moment moment) => some moment.fields
  | _ => none

-- What a key says if it is there; `none` if it is there and says nothing.
def optional? {α : Type} (decode : Node → Option α) : Option Node → Option (Option α)
  | none => some none
  | some node => (decode node).map some

def ofTable? (table : Table) : Option Description :=
  if table.all fun entry => entry.1 ∈ keys then do
    let name ← text? "name" table
    let vertex ← text? "vertex" table
    let fragment ← text? "fragment" table
    let timeUniform ← optional? timeUniform? (table.get? "time_uniform")
    let material ← optional? material? (table.get? "material")
    some ⟨name, vertex, fragment, timeUniform, material.getD []⟩
  else none

def read? (text : String) : Option Description := (Toml.read? text).bind ofTable?

def options (vertex fragment : String) (description : Description) : Options :=
  ⟨some vertex, some fragment, description.timeUniform, none, description.material⟩

end Description

inductive ProjectError where
  | unreadable (path : String) (cause : FileError)
  | malformed (path : String)
  | emptyName (path : String)
  | noSource (stage : Stage) (path : String) (cause : FileError)
deriving DecidableEq

namespace ProjectError

def message : ProjectError → String
  | .unreadable path _ => "failed to read project file at " ++ path
  | .malformed path => "failed to parse project file at " ++ path
  | .emptyName path => "project name in " ++ path ++ " must not be empty"
  | .noSource stage path _ => "failed to read " ++ stage.name ++ " shader at " ++ path

def chain : ProjectError → List String
  | .unreadable path cause => [message (.unreadable path cause), cause.message]
  | .noSource stage path cause => [message (.noSource stage path cause), cause.message]
  | other => [other.message]

end ProjectError

structure Project where
  name : String
  fragmentPath : String
  options : Options

namespace Project

variable {m : Type → Type} [Monad m]

def fetch {E : Type} (read : String → m (Except FileError String)) (name : FileError → E)
    (path : String) : ExceptT E m String :=
  ExceptT.mk do return (← read path).mapError name

def load (read : String → m (Except FileError String)) (path : String) :
    ExceptT ProjectError m Project := do
  let text ← fetch read (.unreadable path) path
  match Description.read? text with
  | none => throw (.malformed path)
  | some description =>
      if Text.isBlankText description.name then throw (.emptyName path)
      else
        let base := Path.directory path
        let vertexPath := Path.join base description.vertex
        let fragmentPath := Path.join base description.fragment
        let vertex ← fetch read (.noSource .vertex vertexPath) vertexPath
        let fragment ← fetch read (.noSource .fragment fragmentPath) fragmentPath
        return ⟨description.name, fragmentPath, description.options vertex fragment⟩

end Project

end ShaderKnobs
