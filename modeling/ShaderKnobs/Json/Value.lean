import ShaderKnobs.Number.Decimal

set_option autoImplicit false

namespace ShaderKnobs

structure Whole where
  value : Int
  bounded : -2 ^ 63 ≤ value ∧ value < 2 ^ 64
deriving DecidableEq

inductive Json where
  | null
  | bool (value : Bool)
  | whole (value : Whole)
  | real (value : Number.Finite Number.double)
  | text (value : String)
  | array (items : List Json)
  | object (fields : List (String × Json))

abbrev Fields := List (String × Json)

namespace Fields

def put (key : String) (value : Json) : Fields → Fields
  | [] => [(key, value)]
  | (other, old) :: rest =>
      if key = other then (key, value) :: rest
      else if key < other then (key, value) :: (other, old) :: rest
      else (other, old) :: put key value rest

def get? (key : String) : Fields → Option Json
  | [] => none
  | (other, value) :: rest => if key = other then some value else get? key rest

def erase (key : String) (fields : Fields) : Fields :=
  fields.filter fun field => field.1 ≠ key

-- Gathers entries into an object; of a repeated key the last value stays.
def ofEntries (entries : List (String × Json)) : Fields :=
  entries.foldl (fun fields entry => put entry.1 entry.2 fields) []

end Fields

namespace Json

def ofInt? (n : Int) : Option Json :=
  if h : -2 ^ 63 ≤ n ∧ n < 2 ^ 64 then some (.whole ⟨n, h⟩) else none

def ofInt64 (n : Int64) : Json :=
  .whole ⟨n.toInt, by have := n.le_toInt; have := n.toInt_lt; constructor <;> omega⟩

def ofReal? (numeral : Number.Numeral) : Option Json :=
  match numeral.toBinary Number.double with
  | .finite x => some (.real x)
  | _ => none

def number? : Json → Option Number.Double
  | .whole n => some (.ofInt Number.double n.value)
  | .real x => some (.finite x)
  | _ => none

def bool? : Json → Option Bool
  | .bool value => some value
  | _ => none

def field? (key : String) : Json → Option Json
  | .object fields => Fields.get? key fields
  | _ => none

def numberField? (key : String) (data : Json) : Option Number.Double :=
  (data.field? key).bind number?

def truthy : Json → Bool
  | .null => false
  | .bool value => value
  | .whole n => n.value != 0
  | .real x => x.mantissa != 0
  | .text value => value != ""
  | .array _ => true
  | .object _ => true

end Json

end ShaderKnobs
