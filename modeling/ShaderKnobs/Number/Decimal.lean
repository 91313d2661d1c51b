import ShaderKnobs.Number.Binary

set_option autoImplicit false

namespace ShaderKnobs.Number

structure Decimal where
  significand : Nat
  exponent : Int

def ofDigits (digits : List Char) : Nat :=
  digits.foldl (fun n c => 10 * n + (c.toNat - '0'.toNat)) 0

def digitCount (n : Nat) : Nat := (Nat.toDigits 10 n).length

-- The nearest number of the format. Below `10 ^ k` with `8 ^ k` under half the least number the result
-- is zero, and from `10 ^ k` with `8 ^ k` above the format's range it is infinite.
def Decimal.toBinary (f : Format) (negative : Bool) (d : Decimal) : Binary f :=
  let top : Int := digitCount d.significand + d.exponent
  if d.significand = 0 then .ofParts f negative 0 f.minExponent
  else if f.maxExponent + f.precision < 3 * (top - 1) then .infinite negative
  else if top < 0 ∧ 3 * top < f.minExponent - 1 then .ofParts f negative 0 f.minExponent
  else .ofRatio f negative (Ratio.scaleTen ⟨d.significand, 1⟩ d.exponent)

structure Numeral where
  negative : Bool
  whole : List Char
  fraction : List Char
  exponent : Int

def Numeral.decimal (n : Numeral) : Decimal :=
  ⟨ofDigits (n.whole ++ n.fraction), n.exponent - n.fraction.length⟩

def Numeral.toBinary (f : Format) (n : Numeral) : Binary f :=
  n.decimal.toBinary f n.negative

def spanDigits (text : List Char) : List Char × List Char :=
  (text.takeWhile Char.isDigit, text.dropWhile Char.isDigit)

def readSign : List Char → Bool × List Char
  | '-' :: rest => (true, rest)
  | '+' :: rest => (false, rest)
  | text => (false, text)

def readExponent? : List Char → Option Int
  | [] => some 0
  | mark :: rest =>
      if mark = 'e' ∨ mark = 'E' then
        let (negative, digits) := readSign rest
        if digits ≠ [] ∧ digits.all Char.isDigit then
          some (if negative then -(ofDigits digits : Int) else ofDigits digits)
        else none
      else none

def readMagnitude? (negative : Bool) (text : List Char) : Option Numeral :=
  let (whole, rest) := spanDigits text
  let (fraction, rest) := match rest with
    | '.' :: tail => spanDigits tail
    | other => ([], other)
  if whole = [] ∧ fraction = [] then none
  else (readExponent? rest).map (⟨negative, whole, fraction, ·⟩)

def Binary.ofText? (f : Format) (text : String) : Option (Binary f) :=
  let (negative, rest) := readSign text.toList
  match String.ofList (rest.map Char.toLower) with
  | "inf" | "infinity" => some (.infinite negative)
  | "nan" => some .nan
  | _ => (readMagnitude? negative rest).map (Numeral.toBinary f)

end ShaderKnobs.Number
