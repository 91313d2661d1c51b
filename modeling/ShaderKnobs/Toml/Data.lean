import ShaderKnobs.Json.Value
import ShaderKnobs.Toml.Table

set_option autoImplicit false

namespace ShaderKnobs.Toml

def momentKey : String := "$__toml_private_datetime"

def Moment.fields (moment : Moment) : Fields := [(momentKey, .text moment.text)]

def Scalar.data : Scalar → Json
  | .text value => .text value
  | .whole value => .ofInt64 value
  | .real (.finite value) => .real value
  | .real _ => .null
  | .bool value => .bool value
  | .moment value => .object value.fields

def Node.text? : Node → Option String
  | .scalar (.text value) => some value
  | _ => none

-- The moment that a table holds under the reserved key, if that key stands first.
def heldMoment? : Table → Option (Option Moment)
  | (key, node) :: _ => if key = momentKey then some (node.text?.bind Moment.ofText?) else none
  | [] => none

def tableData? (table : Table) (values : Option (List (String × Json))) : Option Json :=
  match heldMoment? table with
  | some held => held.map fun moment => .object moment.fields
  | none => values.map fun values => .object (Fields.ofEntries values)

mutual
def Node.data? : Node → Option Json
  | .scalar value => some value.data
  | .array items => (itemsData? items).map .array
  | .table _ entries => tableData? entries (entriesData? entries)
  | .tables elements => (elementsData? elements).map .array

def itemsData? : List Node → Option (List Json)
  | [] => some []
  | item :: rest =>
      match item.data?, itemsData? rest with
      | some data, some others => some (data :: others)
      | _, _ => none

def elementsData? : List (List (String × Node)) → Option (List Json)
  | [] => some []
  | entries :: rest =>
      match tableData? entries (entriesData? entries), elementsData? rest with
      | some data, some others => some (data :: others)
      | _, _ => none

def entriesData? : List (String × Node) → Option (List (String × Json))
  | [] => some []
  | (key, node) :: rest =>
      match node.data?, entriesData? rest with
      | some data, some others => some ((key, data) :: others)
      | _, _ => none
end

def Table.fields? (table : Table) : Option Fields :=
  (entriesData? table).map Fields.ofEntries

end ShaderKnobs.Toml
