import ShaderKnobs.Number.Decimal
import ShaderKnobs.Text.Bytes
import ShaderKnobs.Text.Read

set_option autoImplicit false

namespace ShaderKnobs

-- A text between quotes. An escape by code stays a code unit, which may be half of a character.
inductive Piece where
  | char (c : Char)
  | unit (n : Nat)

-- Data as it stands in a text: keys may recur, and numbers are not yet given a value.
inductive Raw where
  | null
  | bool (value : Bool)
  | number (numeral : Number.Numeral) (isInteger : Bool)
  | text (pieces : List Piece)
  | array (items : List Raw)
  | object (entries : List (List Piece × Raw))

namespace Raw

def isSpace (c : Char) : Bool := c == ' ' || c == '\n' || c == '\t' || c == '\r'

def skipSpace (chars : List Char) : List Char := chars.dropWhile isSpace

def unescape? : Char → Option Char
  | '"' => some '"'
  | '\\' => some '\\'
  | '/' => some '/'
  | 'b' => some '\x08'
  | 'f' => some '\x0c'
  | 'n' => some '\n'
  | 'r' => some '\r'
  | 't' => some '\t'
  | _ => none

def readUnit? : Read Nat
  | a :: b :: c :: d :: rest => (Text.hexValue? [a, b, c, d]).map (·, rest)
  | _ => none

def readEscape? : Read Piece
  | 'u' :: rest => (readUnit? rest).map fun (n, rest) => (.unit n, rest)
  | c :: rest => (unescape? c).map fun c => (.char c, rest)
  | [] => none

-- A text after its opening quote; `done` holds what was read in reverse. Each round takes at least one
-- character, so a text's length bounds the rounds.
def readQuoted? : Nat → List Piece → Read (List Piece)
  | 0, _, _ => none
  | _ + 1, _, [] => none
  | fuel + 1, done, c :: rest =>
      if c = '"' then some (done.reverse, rest)
      else if c = '\\' then do
        let (piece, rest) ← readEscape? rest
        readQuoted? fuel (piece :: done) rest
      else if c.toNat < 0x20 then none
      else readQuoted? fuel (.char c :: done) rest

def readText? : Read (List Piece) := fun rest => readQuoted? (rest.length + 1) [] rest

def readWhole? : Read (List Char)
  | '0' :: rest => some (['0'], rest)
  | chars =>
      match Number.spanDigits chars with
      | ([], _) => none
      | (digits, rest) => some (digits, rest)

def readFraction? : Read (Option (List Char))
  | '.' :: rest =>
      match Number.spanDigits rest with
      | ([], _) => none
      | (digits, rest) => some (some digits, rest)
  | chars => some (none, chars)

def readExponent? : Read (Option Int)
  | mark :: rest =>
      if mark = 'e' ∨ mark = 'E' then
        let (negative, rest) := Number.readSign rest
        match Number.spanDigits rest with
        | ([], _) => none
        | (digits, rest) =>
            let power : Int := Number.ofDigits digits
            some (some (if negative then -power else power), rest)
      else some (none, mark :: rest)
  | [] => some (none, [])

def readNumber? (negative : Bool) : Read Raw := fun chars => do
  let (digits, rest) ← readWhole? chars
  let (fraction, rest) ← readFraction? rest
  let (exponent, rest) ← readExponent? rest
  some (.number ⟨negative, digits, fraction.getD [], exponent.getD 0⟩ (fraction.isNone && exponent.isNone), rest)

def readScalar? : Read Raw
  | 'n' :: 'u' :: 'l' :: 'l' :: rest => some (.null, rest)
  | 't' :: 'r' :: 'u' :: 'e' :: rest => some (.bool true, rest)
  | 'f' :: 'a' :: 'l' :: 's' :: 'e' :: rest => some (.bool false, rest)
  | '"' :: rest => (readText? rest).map fun (pieces, rest) => (.text pieces, rest)
  | '-' :: rest => readNumber? true rest
  | chars => readNumber? false chars

-- The elements of an array or object after its opening, up to the closing character.
def readListed? {α : Type} (closing : Char) (element : Read α) : Nat → Read (List α)
  | 0, _ => none
  | fuel + 1, chars => do
      let (a, rest) ← element (skipSpace chars)
      match skipSpace rest with
      | [] => none
      | c :: rest =>
          if c = ',' then do
            let (others, rest) ← readListed? closing element fuel rest
            some (a :: others, rest)
          else if c = closing then some ([a], rest)
          else none

def readField? (value : Read Raw) : Read (List Piece × Raw)
  | '"' :: rest => do
      let (key, rest) ← readText? rest
      match skipSpace rest with
      | ':' :: rest => do
          let (raw, rest) ← value (skipSpace rest)
          some ((key, raw), rest)
      | _ => none
  | _ => none

def readArray? (value : Read Raw) : Read Raw := fun chars =>
  match skipSpace chars with
  | ']' :: rest => some (.array [], rest)
  | _ => (readListed? ']' value (chars.length + 1) chars).map fun (items, rest) => (.array items, rest)

def readObject? (value : Read Raw) : Read Raw := fun chars =>
  match skipSpace chars with
  | '\x7d' :: rest => some (.object [], rest)
  | _ =>
      (readListed? '\x7d' (readField? value) (chars.length + 1) chars).map fun (entries, rest) =>
        (.object entries, rest)

def readValue? : Nat → Read Raw
  | 0, chars => readScalar? chars
  | levels + 1, chars =>
      match chars with
      | '[' :: rest => readArray? (readValue? levels) rest
      | '\x7b' :: rest => readObject? (readValue? levels) rest
      | _ => readScalar? chars

-- Each array or object inside another takes a character, so a text's length bounds the levels.
def read? (text : String) : Option Raw :=
  let chars := skipSpace text.toList
  match readValue? chars.length chars with
  | some (raw, rest) => if skipSpace rest = [] then some raw else none
  | none => none

end Raw

end ShaderKnobs
