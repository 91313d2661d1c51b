import ShaderKnobs.Literal.Error
import ShaderKnobs.Json.Value

set_option autoImplicit false

namespace ShaderKnobs.Literal

def isIdentStart (c : Char) : Bool := c.isAlpha || c == '_' || c == '$'

def isIdentRest (c : Char) : Bool := c.isAlphanum || c == '_' || c == '$'

def spanIdent (text : List Char) : List Char × List Char :=
  (text.takeWhile isIdentRest, text.dropWhile isIdentRest)

-- The value of four characters of an escape; a plus sign may stand for the first digit.
def readCode? : List Char → Option Nat
  | '+' :: digits => if digits = [] then none else Text.hexValue? digits
  | digits => Text.hexValue? digits

def scanUnit (text : List Char) : Scan (Nat × List Char) :=
  match Text.splitBytes? 4 text with
  | none => fail .truncatedUnicode text
  | some (digits, rest) =>
      match readCode? digits with
      | none => fail .invalidUnicode text
      | some code => .ok (code, rest)

def scanUnicode (text : List Char) : Scan (Char × List Char) := do
  let (high, rest) ← scanUnit text
  if Text.isHighSurrogate high then
    match rest with
    | '\\' :: 'u' :: tail =>
        let (low, rest) ← scanUnit tail
        if Text.isLowSurrogate low then .ok (Text.joinSurrogates high low, rest)
        else fail .unpairedSurrogate rest
    | _ => fail .unpairedSurrogate rest
  else if Text.isLowSurrogate high then fail .invalidUnicode rest
  else .ok (Char.ofNat high, rest)

def unescape : Char → Char
  | 'n' => '\n'
  | 't' => '\t'
  | 'r' => '\r'
  | 'b' => '\x08'
  | 'f' => '\x0c'
  | 'v' => '\x0b'
  | '0' => '\x00'
  | c => c

def scanEscape : List Char → Scan (Char × List Char)
  | [] => fail .unterminatedEscape []
  | 'u' :: rest => scanUnicode rest
  | c :: rest => .ok (unescape c, rest)

-- A string after its opening quote, up to the same quote again. `start` is the text from the opening
-- quote on; each round takes at least one character, so its length bounds the rounds.
def scanQuoted (quote : Char) (start : List Char) :
    Nat → List Char → List Char → Scan (String × List Char)
  | 0, _, _ => fail .unterminatedString start
  | _ + 1, _, [] => fail .unterminatedString start
  | fuel + 1, done, c :: rest =>
      if c = quote then .ok (String.ofList done.reverse, rest)
      else if c = '\n' ∨ c = '\r' then fail .unterminatedString start
      else if c = '\\' then do
        let (decoded, rest) ← scanEscape rest
        scanQuoted quote start fuel (decoded :: done) rest
      else scanQuoted quote start fuel (c :: done) rest

def scanString (quote : Char) (rest : List Char) : Scan (String × List Char) :=
  scanQuoted quote (quote :: rest) (rest.length + 1) [] rest

def isHexDigit (c : Char) : Bool := (Text.hexDigit? c).isSome

def endNumber (start rest : List Char) (data : Json) : Scan (Json × List Char) :=
  match rest with
  | c :: _ => if isIdentRest c then fail .invalidNumber start else .ok (data, rest)
  | [] => .ok (data, rest)

def scanHex (start : List Char) (negative : Bool) (text : List Char) :
    Scan (Json × List Char) :=
  let digits := text.takeWhile isHexDigit
  let magnitude : Int := (Text.hexValue? digits).getD 0
  if digits = [] ∨ 2 ^ 63 ≤ magnitude then fail .invalidHex start
  else match Json.ofInt? (if negative then -magnitude else magnitude) with
    | some data => endNumber start (text.dropWhile isHexDigit) data
    | none => fail .invalidHex start

def spanFraction : List Char → Option (List Char) × List Char
  | '.' :: rest => (some (Number.spanDigits rest).1, (Number.spanDigits rest).2)
  | text => (none, text)

def scanExponent : List Char → Scan (Option Int × List Char)
  | mark :: rest =>
      if mark = 'e' ∨ mark = 'E' then
        let (negative, rest) := Number.readSign rest
        match Number.spanDigits rest with
        | ([], rest) => fail .missingExponent rest
        | (digits, rest) =>
            let power : Int := Number.ofDigits digits
            .ok (some (if negative then -power else power), rest)
      else .ok (none, mark :: rest)
  | [] => .ok (none, [])

def decimalData? (numeral : Number.Numeral) (isInteger : Bool) : Option Json :=
  let magnitude : Int := Number.ofDigits numeral.whole
  let n := if numeral.negative then -magnitude else magnitude
  if isInteger ∧ -2 ^ 63 ≤ n ∧ n < 2 ^ 63 then Json.ofInt? n
  else Json.ofReal? numeral

def numeralText (start rest : List Char) : String :=
  match start.take (start.length - rest.length) with
  | '+' :: numeral => String.ofList numeral
  | numeral => String.ofList numeral

def scanDecimal (start : List Char) (negative : Bool) (text : List Char) :
    Scan (Json × List Char) := do
  let (whole, rest) := Number.spanDigits text
  let (fraction, rest) := spanFraction rest
  if whole = [] ∧ fraction.getD [] = [] then fail .invalidNumber start
  else
    let (exponent, rest) ← scanExponent rest
    let numeral : Number.Numeral := ⟨negative, whole, fraction.getD [], exponent.getD 0⟩
    let _ ← endNumber start rest .null
    match decimalData? numeral (fraction.isNone && exponent.isNone) with
    | some data => .ok (data, rest)
    | none => fail (.outOfRange (numeralText start rest)) start

def scanNumber (start : List Char) : Scan (Json × List Char) :=
  let (negative, rest) := Number.readSign start
  match rest with
  | '0' :: 'x' :: digits => scanHex start negative digits
  | '0' :: 'X' :: digits => scanHex start negative digits
  | _ => scanDecimal start negative rest

end ShaderKnobs.Literal
