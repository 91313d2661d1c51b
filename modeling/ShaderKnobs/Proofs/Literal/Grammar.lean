import ShaderKnobs.Literal.Parser

set_option autoImplicit false

namespace ShaderKnobs.Literal

open Number (Numeral ofDigits)

-- What may stand between tokens. The last comment of a text needs no line end.
inductive Gap : List Char → List Char → Prop where
  | none (rest : List Char) : Gap rest rest
  | blank (c : Char) (text rest : List Char) : Text.isAsciiBlank c = true → Gap text rest → Gap (c :: text) rest
  | line (body text rest : List Char) : '\n' ∉ body → Gap text rest → Gap ('/' :: '/' :: (body ++ '\n' :: text)) rest
  | lastLine (body : List Char) : '\n' ∉ body → Gap ('/' :: '/' :: body) []
  | block (body text rest : List Char) : ¬['*', '/'] <:+: body → Gap text rest →
      Gap ('/' :: '*' :: (body ++ '*' :: '/' :: text)) rest

def controls : List (Char × Char) :=
  [('n', '\n'), ('t', '\t'), ('r', '\r'), ('b', '\x08'), ('f', '\x0c'), ('v', '\x0b'), ('0', '\x00')]

def escaped (c : Char) : Char := (controls.lookup c).getD c

-- Four hexadecimal digits, or a plus sign and three.
inductive CodeUnit : List Char → Nat → List Char → Prop where
  | digits (digits : List Char) (code : Nat) (rest : List Char) : digits.length = 4 →
      Text.hexValue? digits = some code → CodeUnit (digits ++ rest) code rest
  | plus (digits : List Char) (code : Nat) (rest : List Char) : digits.length = 3 →
      Text.hexValue? digits = some code → CodeUnit ('+' :: (digits ++ rest)) code rest

inductive Escape : List Char → Char → List Char → Prop where
  | letter (c : Char) (rest : List Char) : c ≠ 'u' → Escape (c :: rest) (escaped c) rest
  | unicode (text rest : List Char) (code : Nat) : CodeUnit text code rest → Text.isHighSurrogate code = false →
      Text.isLowSurrogate code = false → Escape ('u' :: text) (Char.ofNat code) rest
  | pair (text between rest : List Char) (high low : Nat) : CodeUnit text high ('\\' :: 'u' :: between) →
      Text.isHighSurrogate high = true → CodeUnit between low rest → Text.isLowSurrogate low = true →
      Escape ('u' :: text) (Text.joinSurrogates high low) rest

inductive Body (quote : Char) : List Char → List Char → List Char → Prop where
  | close (rest : List Char) : Body quote (quote :: rest) [] rest
  | plain (c : Char) (text chars rest : List Char) : c ≠ quote → c ≠ '\n' → c ≠ '\r' → c ≠ '\\' →
      Body quote text chars rest → Body quote (c :: text) (c :: chars) rest
  | escape (c : Char) (text next chars rest : List Char) : Escape text c next → Body quote next chars rest →
      Body quote ('\\' :: text) (c :: chars) rest

inductive Quoted : List Char → String → List Char → Prop where
  | mk (quote : Char) (text chars rest : List Char) : quote = '"' ∨ quote = '\'' → Body quote text chars rest →
      Quoted (quote :: text) (String.ofList chars) rest

def Digits (digits : List Char) : Prop := ∀ c ∈ digits, c.isDigit = true

inductive Key : List Char → String → List Char → Prop where
  | quoted (text : List Char) (key : String) (rest : List Char) : Quoted text key rest → Key text key rest
  | word (c : Char) (name rest : List Char) : isIdentStart c = true → (∀ d ∈ name, isIdentRest d = true) →
      Key (c :: (name ++ rest)) (String.ofList (c :: name)) rest
  | digits (digits rest : List Char) : digits ≠ [] → Digits digits → Key (digits ++ rest) (String.ofList digits) rest

inductive Sign : List Char → Bool → List Char → Prop where
  | none (rest : List Char) : Sign rest false rest
  | plus (rest : List Char) : Sign ('+' :: rest) false rest
  | minus (rest : List Char) : Sign ('-' :: rest) true rest

def signed (negative : Bool) (magnitude : Nat) : Int := if negative then -magnitude else magnitude

inductive Fraction : List Char → Option (List Char) → List Char → Prop where
  | none (rest : List Char) : Fraction rest none rest
  | point (digits rest : List Char) : Digits digits → Fraction ('.' :: (digits ++ rest)) (some digits) rest

inductive Exponent : List Char → Option Int → List Char → Prop where
  | none (rest : List Char) : Exponent rest none rest
  | power (mark : Char) (text digits rest : List Char) (negative : Bool) : mark = 'e' ∨ mark = 'E' →
      Sign text negative (digits ++ rest) → digits ≠ [] → Digits digits →
      Exponent (mark :: text) (some (signed negative (ofDigits digits))) rest

-- Hexadecimal integers, decimal integers of 64 bits with sign, and all other decimal numbers, which
-- are read as the nearest double and must be finite.
inductive Numerical : List Char → Json → List Char → Prop where
  | hex (text digits rest : List Char) (negative : Bool) (mark : Char) (magnitude : Nat) (n : Whole) :
      Sign text negative ('0' :: mark :: (digits ++ rest)) → mark = 'x' ∨ mark = 'X' → digits ≠ [] →
      Text.hexValue? digits = some magnitude → magnitude < 2 ^ 63 → n.value = signed negative magnitude →
      Numerical text (.whole n) rest
  | integer (text digits rest : List Char) (negative : Bool) (n : Whole) : Sign text negative (digits ++ rest) →
      digits ≠ [] → Digits digits → n.value = signed negative (ofDigits digits) →
      -2 ^ 63 ≤ n.value ∧ n.value < 2 ^ 63 → Numerical text (.whole n) rest
  | real (text whole after next rest : List Char) (negative : Bool) (fraction : Option (List Char))
      (exponent : Option Int) (x : Number.Finite Number.double) : Sign text negative (whole ++ after) →
      Digits whole → Fraction after fraction next → Exponent next exponent rest →
      whole ≠ [] ∨ fraction.getD [] ≠ [] →
      ¬(fraction = none ∧ exponent = none ∧ -2 ^ 63 ≤ signed negative (ofDigits whole) ∧
        signed negative (ofDigits whole) < 2 ^ 63) →
      Numeral.toBinary Number.double ⟨negative, whole, fraction.getD [], exponent.getD 0⟩ = .finite x →
      Numerical text (.real x) rest

-- Elements between commas up to a closing bracket. A comma may follow the last element, but not
-- stand without one.
inductive Sequence {α : Type} (closing : Char) (element : List Char → α → List Char → Prop) :
    List Char → List α → List Char → Prop where
  | close (text rest : List Char) : Gap text (closing :: rest) → Sequence closing element text [] rest
  | last (text body next rest : List Char) (a : α) : Gap text body → element body a next →
      Gap next (closing :: rest) → Sequence closing element text [a] rest
  | more (text body next after rest : List Char) (a : α) (others : List α) : Gap text body → element body a next →
      Gap next (',' :: after) → Sequence closing element after others rest →
      Sequence closing element text (a :: others) rest

inductive Member (element : List Char → Json → List Char → Prop) :
    List Char → String × Json → List Char → Prop where
  | mk (text between after body rest : List Char) (key : String) (data : Json) : Key text key between →
      Gap between (':' :: after) → Gap after body → element body data rest → Member element text (key, data) rest

-- The fields that members make up: rising keys, and for each key the last value it was given.
structure Gathers (members : List (String × Json)) (fields : Fields) : Prop where
  rising : fields.Pairwise fun a b => a.1 < b.1
  last : ∀ key, Fields.get? key fields = (members.reverse.find? (·.1 = key)).map (·.2)

def words : List (String × Json) :=
  [("true", .bool true), ("false", .bool false), ("null", .null), ("undefined", .null)]

-- A value, given what the elements of arrays and objects may be.
inductive Level (element : List Char → Json → List Char → Prop) : List Char → Json → List Char → Prop where
  | word (word : String) (data : Json) (rest : List Char) : (word, data) ∈ words →
      Level element (word.toList ++ rest) data rest
  | text (text : List Char) (value : String) (rest : List Char) : Quoted text value rest →
      Level element text (.text value) rest
  | number (text : List Char) (data : Json) (rest : List Char) : Numerical text data rest →
      Level element text data rest
  | array (text : List Char) (items : List Json) (rest : List Char) : Sequence ']' element text items rest →
      Level element ('[' :: text) (.array items) rest
  | object (text : List Char) (members : List (String × Json)) (fields : Fields) (rest : List Char) :
      Sequence '\x7d' (Member element) text members rest → Gathers members fields →
      Level element ('\x7b' :: text) (.object fields) rest

def Nested : Nat → List Char → Json → List Char → Prop
  | 0 => Level fun _ _ _ => False
  | depth + 1 => Level (Nested depth)

def Spells (text : List Char) (data : Json) : Prop :=
  ∃ start next, Gap text start ∧ Nested maxDepth start data next ∧ Gap next []

end ShaderKnobs.Literal
