import ShaderKnobs.Json.Reader
import ShaderKnobs.Json.Value

set_option autoImplicit false

namespace ShaderKnobs

-- How the digits of a number that is no integer in range become a double.
abbrev RealReader := Number.Numeral → Option (Number.Finite Number.double)

namespace RealReader

def nearest : RealReader := fun numeral =>
  match numeral.toBinary Number.double with
  | .finite x => some x
  | _ => none

end RealReader

namespace Piece

def chars? : List Piece → Option (List Char)
  | [] => some []
  | .char c :: rest => (chars? rest).map (c :: ·)
  | .unit high :: .unit low :: rest =>
      if Text.isHighSurrogate high then
        if Text.isLowSurrogate low then (chars? rest).map (Text.joinSurrogates high low :: ·) else none
      else if Text.isLowSurrogate high then none
      else (chars? (.unit low :: rest)).map (Char.ofNat high :: ·)
  | .unit n :: rest =>
      if Text.isHighSurrogate n || Text.isLowSurrogate n then none else (chars? rest).map (Char.ofNat n :: ·)

def text? (pieces : List Piece) : Option String := (chars? pieces).map String.ofList

end Piece

namespace Raw

-- A minus sign before zero makes a number a double.
def number? (real : RealReader) (numeral : Number.Numeral) (isInteger : Bool) : Option Json :=
  let magnitude : Int := Number.ofDigits numeral.whole
  if isInteger ∧ !numeral.negative ∧ magnitude < 2 ^ 64 then Json.ofInt? magnitude
  else if isInteger ∧ numeral.negative ∧ 0 < magnitude ∧ magnitude ≤ 2 ^ 63 then Json.ofInt? (-magnitude)
  else (real numeral).map .real

def keyed? (entries : List (List Piece × Raw)) : Option (List (String × Raw)) :=
  entries.mapM fun entry => (Piece.text? entry.1).map (·, entry.2)

def fields? (decode : Raw → Option Json) (entries : List (String × Raw)) : Option Fields :=
  (entries.mapM fun entry => (decode entry.2).map (entry.1, ·)).map Fields.ofEntries

-- The data of a text with at most so many arrays and objects inside one another.
def json? (real : RealReader) : Nat → Raw → Option Json
  | _, .null => some .null
  | _, .bool value => some (.bool value)
  | _, .number numeral isInteger => number? real numeral isInteger
  | _, .text pieces => (Piece.text? pieces).map .text
  | 0, .array _ => none
  | 0, .object _ => none
  | levels + 1, .array items => (items.mapM (json? real levels)).map .array
  | levels + 1, .object entries => ((keyed? entries).bind (fields? (json? real levels))).map .object

def string? : Raw → Option String
  | .text pieces => Piece.text? pieces
  | _ => none

def strings? : Raw → Option (List String)
  | .array items => items.mapM string?
  | _ => none

def choice? : Raw → Option String
  | .text name => Piece.text? name
  | .object [(name, .null)] => Piece.text? name
  | _ => none

-- The value of a field that may be missing but not recur.
def field? (key : String) (entries : List (String × Raw)) : Option (Option Raw) :=
  match entries.filter (·.1 = key) with
  | [] => some none
  | [entry] => some (some entry.2)
  | _ => none

def required? {α : Type} (decode : Raw → Option α) (key : String) (entries : List (String × Raw)) : Option α := do
  decode (← (← field? key entries))

def optional? {α : Type} (decode : Raw → Option α) (key : String) (entries : List (String × Raw)) :
    Option (Option α) := do
  match ← field? key entries with
  | none => some none
  | some .null => some none
  | some raw => (decode raw).map some

end Raw

namespace Json

def natural? : Json → Option Nat
  | .whole n => if 0 ≤ n.value then some n.value.toNat else none
  | _ => none

def fields? : Json → Option Fields
  | .object fields => some fields
  | _ => none

def optional? {α : Type} (decode : Json → Option α) : Option Json → Option (Option α)
  | none => some none
  | some .null => some none
  | some data => (decode data).map some

def maxDepth : Nat := 127

def readWith? (real : RealReader) (text : String) : Option Json := (Raw.read? text).bind (Raw.json? real maxDepth)

def read? (text : String) : Option Json := readWith? .nearest text

end Json

end ShaderKnobs
