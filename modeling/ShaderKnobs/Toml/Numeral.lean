import ShaderKnobs.Text.Bytes
import ShaderKnobs.Toml.Table

set_option autoImplicit false

namespace ShaderKnobs.Toml

def readMore? (isDigit : Char → Bool) : Read (List Char)
  | [] => some ([], [])
  | '_' :: [] => none
  | '_' :: c :: rest =>
      if isDigit c then (readMore? isDigit rest).map fun (digits, rest) => (c :: digits, rest)
      else none
  | c :: rest =>
      if isDigit c then (readMore? isDigit rest).map fun (digits, rest) => (c :: digits, rest)
      else some ([], c :: rest)

def readDigits? (isDigit : Char → Bool) : Read (List Char)
  | c :: rest =>
      if isDigit c then (readMore? isDigit rest).map fun (digits, rest) => (c :: digits, rest)
      else none
  | [] => none

def readWhole? : Read (List Char)
  | '0' :: rest => some (['0'], rest)
  | text => readDigits? Char.isDigit text

def readExponent? : Read Int
  | mark :: rest =>
      if mark = 'e' ∨ mark = 'E' then
        let (negative, rest) := Number.readSign rest
        (readDigits? Char.isDigit rest).map fun (digits, rest) =>
          let power : Int := Number.ofDigits digits
          (if negative then -power else power, rest)
      else none
  | [] => none

def readTail? : Read (List Char × Int)
  | '.' :: rest => do
      let (fraction, rest) ← readDigits? Char.isDigit rest
      match readExponent? rest with
      | some (exponent, rest) => some ((fraction, exponent), rest)
      | none => some ((fraction, 0), rest)
  | text => (readExponent? text).map fun (exponent, rest) => (([], exponent), rest)

-- A real number in digits; one that rounds to infinity is refused, but not if it is negative.
def readReal? : Read Scalar := fun text => do
  let (negative, rest) := Number.readSign text
  let (whole, rest) ← readWhole? rest
  let ((fraction, exponent), rest) ← readTail? rest
  let numeral : Number.Numeral := ⟨negative, whole, fraction, exponent⟩
  let value := numeral.toBinary Number.double
  if value = .infinite false then none else some (.real value, rest)

def readWord? : Read Scalar := fun text =>
  let (negative, rest) := Number.readSign text
  match rest with
  | 'i' :: 'n' :: 'f' :: rest => some (.real (.infinite negative), rest)
  | 'n' :: 'a' :: 'n' :: rest => some (.real .nan, rest)
  | _ => none

def whole? (n : Int) : Option Scalar :=
  if -2 ^ 63 ≤ n ∧ n < 2 ^ 63 then some (.whole (Int64.ofInt n)) else none

def readDecimal? : Read Scalar := fun text => do
  let (negative, rest) := Number.readSign text
  let (digits, rest) ← readWhole? rest
  let magnitude : Int := Number.ofDigits digits
  (whole? (if negative then -magnitude else magnitude)).map (·, rest)

def base? : Char → Option Nat
  | 'x' => some 16
  | 'o' => some 8
  | 'b' => some 2
  | _ => none

def isBaseDigit (base : Nat) (c : Char) : Bool :=
  ((Text.hexDigit? c).filter (· < base)).isSome

def ofBase (base : Nat) (digits : List Char) : Nat :=
  digits.foldl (fun n c => base * n + (Text.hexDigit? c).getD 0) 0

def readInteger? : Read Scalar
  | '0' :: letter :: rest =>
      match base? letter with
      | some base => do
          let (digits, rest) ← readDigits? (isBaseDigit base) rest
          (whole? (ofBase base digits)).map (·, rest)
      | none => readDecimal? ('0' :: letter :: rest)
  | text => readDecimal? text

-- A moment or a number. What could go on as a moment is no number, and what could go on as a real number
-- is no integer: the text that is left over would not end the value.
def readNumeral? : Read Scalar := fun text =>
  (((readMoment? text).map fun (moment, rest) => (.moment moment, rest)).or
    ((readReal? text).or (readWord? text))).or (readInteger? text)

end ShaderKnobs.Toml
