import ShaderKnobs.Number.Binary
import ShaderKnobs.Toml.Moment

set_option autoImplicit false

namespace ShaderKnobs.Toml

inductive Scalar where
  | text (value : String)
  | whole (value : Int64)
  | real (value : Number.Double)
  | bool (value : Bool)
  | moment (value : Moment)
deriving DecidableEq

inductive Origin where
  | header
  | implied
  | dotted
  | braces
deriving DecidableEq

inductive Node where
  | scalar (value : Scalar)
  | array (items : List Node)
  | table (origin : Origin) (entries : List (String × Node))
  | tables (elements : List (List (String × Node)))

abbrev Table := List (String × Node)

namespace Table

def get? (key : String) (table : Table) : Option Node :=
  (table.find? (·.1 = key)).map (·.2)

def add (key : String) (node : Node) (table : Table) : Table := table ++ [(key, node)]

def replace (key : String) (node : Node) (table : Table) : Table :=
  table.map fun entry => if entry.1 = key then (key, node) else entry

def erase (key : String) (table : Table) : Table := table.filter (·.1 ≠ key)

def changeLast? (change : Table → Option Table) : List Table → Option (List Table)
  | [] => none
  | [last] => (change last).map ([·])
  | first :: second :: rest => (changeLast? change (second :: rest)).map (first :: ·)

-- Puts a node under a dotted key. The parts before the last name tables that have no header and are not
-- in braces, or the last of listed tables; the table right before the last part must be one that dotted
-- keys have begun.
def insert? (node : Node) : List String → Table → Option Table
  | [], _ => none
  | [key], table => if (table.get? key).isNone then some (table.add key node) else none
  | key :: next :: path, table =>
      match table.get? key with
      | none => (insert? node (next :: path) []).map fun entries =>
          table.add key (.table .dotted entries)
      | some (.table .dotted entries) =>
          (insert? node (next :: path) entries).map fun entries =>
            table.replace key (.table .dotted entries)
      | some (.table .implied entries) =>
          if path = [] then none
          else (insert? node (next :: path) entries).map fun entries =>
            table.replace key (.table .implied entries)
      | some (.tables elements) =>
          if path = [] then none
          else (changeLast? (insert? node (next :: path)) elements).map fun elements =>
            table.replace key (.tables elements)
      | _ => none

abbrev Entry := List String × Node

def fill? (entries : List Entry) (table : Table) : Option Table :=
  entries.foldlM (fun table entry => insert? entry.2 entry.1 table) table

-- Changes the table that a header's path leads to; the parts that no table has yet are implied.
def reach? (change : Table → Option Table) : List String → Table → Option Table
  | [], table => change table
  | key :: path, table =>
      match table.get? key with
      | none => (reach? change path []).map fun entries => table.add key (.table .implied entries)
      | some (.table .braces _) => none
      | some (.table origin entries) =>
          (reach? change path entries).map fun entries => table.replace key (.table origin entries)
      | some (.tables elements) =>
          (changeLast? (reach? change path) elements).map fun elements =>
            table.replace key (.tables elements)
      | _ => none

-- Gives a key its table; one that was implied until now is taken up and moves to the end.
def open? (key : String) (entries : List Entry) (table : Table) : Option Table :=
  match table.get? key with
  | none => (fill? entries []).map fun filled => table.add key (.table .header filled)
  | some (.table .implied begun) =>
      (fill? entries begun).map fun filled => (table.erase key).add key (.table .header filled)
  | _ => none

def list? (key : String) (entries : List Entry) (table : Table) : Option Table :=
  match table.get? key with
  | none => (fill? entries []).map fun filled => table.add key (.tables [filled])
  | some (.tables elements) =>
      (fill? entries []).map fun filled => table.replace key (.tables (elements ++ [filled]))
  | _ => none

end Table

structure Header where
  path : List String
  listed : Bool
deriving DecidableEq

structure Part where
  header : Header
  entries : List Table.Entry

def Table.addPart? (table : Table) (part : Part) : Option Table :=
  match part.header.path.getLast? with
  | none => none
  | some key =>
      let change := if part.header.listed then Table.list? key else Table.open? key
      table.reach? (change part.entries) part.header.path.dropLast

end ShaderKnobs.Toml
