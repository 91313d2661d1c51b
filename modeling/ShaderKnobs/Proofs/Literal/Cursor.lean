import ShaderKnobs.Proofs.Literal.Quoted

set_option autoImplicit false

namespace ShaderKnobs.Literal.Cursor

open Number (ofDigits readSign)

-- Why a run stops: the text is no literal, or something went wrong on the way. A part was taken out at
-- positions that do not bound one, a pair of surrogates made no character, the digits of a number were
-- none, an integer of 64 bits overflowed, a loop outlasted the text.
inductive Halt where
  | refused (error : LiteralError)
  | badSlice (start stop : Nat)
  | badPair (offset : Nat)
  | badNumber (numeral : String) (offset : Nat)
  | overflow
  | endless
deriving DecidableEq

abbrev Step := Except Halt

def refuse {α : Type} (cause : Cause) (offset : Nat) : Step α := .error (.refused ⟨cause, offset⟩)

def octets (text : List Char) : List Char := (text.flatMap String.utf8EncodeChar).map Char.ofUInt8

inductive Mode where
  | between
  | line
  | block (start : Nat)

def skipFrom : Mode → Nat → List Char → Step Nat
  | .between, pos, '/' :: '/' :: rest => skipFrom .line (pos + 2) rest
  | .between, pos, '/' :: '*' :: rest => skipFrom (.block pos) (pos + 2) rest
  | .between, pos, b :: rest => if Text.isAsciiBlank b then skipFrom .between (pos + 1) rest else .ok pos
  | .line, pos, b :: rest =>
      if b = '\n' then skipFrom .between (pos + 1) rest else skipFrom .line (pos + 1) rest
  | .block _, pos, '*' :: '/' :: rest => skipFrom .between (pos + 2) rest
  | .block start, pos, _ :: rest => skipFrom (.block start) (pos + 1) rest
  | .block start, _, [] => refuse .unterminatedComment start
  | .between, pos, [] => .ok pos
  | .line, pos, [] => .ok pos

def scalar? (code : Nat) : Option Char := if code.isValidChar then some (Char.ofNat code) else none

def pairCode (high low : Nat) : Nat := 0x10000 + (high - 0xd800) * 0x400 + (low - 0xdc00)

def hexLong? (digits : List Char) : Option Nat :=
  if digits = [] then none else (Text.hexValue? digits).filter (· < 2 ^ 63)

def long? (numeral : List Char) : Option Int :=
  let digits := (readSign numeral).2
  let n := signed (readSign numeral).1 (ofDigits digits)
  if digits ≠ [] ∧ digits.all Char.isDigit ∧ -2 ^ 63 ≤ n ∧ n < 2 ^ 63 then some n else none

def long (n : Int) : Step Json :=
  if -2 ^ 63 ≤ n ∧ n < 2 ^ 63 then .ok (.ofInt64 (Int64.ofInt n)) else .error .overflow

def double (start : Nat) (numeral : String) : Step Json :=
  match Number.Binary.ofText? Number.double numeral with
  | none => .error (.badNumber numeral start)
  | some (.finite x) => .ok (.real x)
  | some _ => refuse (.outOfRange numeral) start

def decimalData (start : Nat) (isReal : Bool) (numeral : List Char) : Step Json :=
  match if isReal then none else long? numeral with
  | some n => long n
  | none => double start (String.ofList numeral)

def wordBetween (start stop : Nat) : String → Step (Json × Nat)
  | "true" => .ok (.bool true, stop)
  | "false" => .ok (.bool false, stop)
  | "null" => .ok (.null, stop)
  | "undefined" => .ok (.null, stop)
  | "Infinity" => refuse (.nonFinite "Infinity") start
  | "NaN" => refuse (.nonFinite "NaN") start
  | other => refuse (.unknownIdentifier other) start

section

variable (text : List Char)

def size : Nat := (octets text).length

def peek (pos : Nat) : Option Char := (octets text)[pos]?

def part? (start stop : Nat) : Option (List Char) :=
  if stop < start then none
  else (Text.splitBytes? start text).bind fun cut => (Text.splitBytes? (stop - start) cut.2).map (·.1)

def slice (start stop : Nat) : Step (List Char) :=
  match part? text start stop with
  | some part => .ok part
  | none => .error (.badSlice start stop)

def run (p : Char → Bool) (pos : Nat) : Nat := pos + (((octets text).drop pos).takeWhile p).length

def skip (pos : Nat) : Step Nat := skipFrom .between pos ((octets text).drop pos)

def hex4 (pos : Nat) : Step (Nat × Nat) :=
  match part? text pos (pos + 4) with
  | none => refuse .truncatedUnicode pos
  | some digits =>
      match readCode? digits with
      | none => refuse .invalidUnicode pos
      | some code => .ok (code, pos + 4)

def unicode (pos : Nat) : Step (Char × Nat) := do
  let (high, pos) ← hex4 text pos
  if Text.isHighSurrogate high then
    if peek text pos = some '\\' ∧ peek text (pos + 1) = some 'u' then
      let (low, pos) ← hex4 text (pos + 2)
      if Text.isLowSurrogate low then
        match scalar? (pairCode high low) with
        | some c => .ok (c, pos)
        | none => .error (.badPair pos)
      else refuse .unpairedSurrogate pos
    else refuse .unpairedSurrogate pos
  else
    match scalar? high with
    | some c => .ok (c, pos)
    | none => refuse .invalidUnicode pos

def escape (pos : Nat) : Step (Char × Nat) := do
  match (← slice text pos (size text)).head? with
  | none => refuse .unterminatedEscape pos
  | some c =>
      let pos := pos + c.utf8Size
      if c = 'u' then unicode text pos else .ok (unescape c, pos)

def quotedFrom (quote : Char) (start : Nat) : Nat → List Char → Nat → Step (String × Nat)
  | 0, _, _ => .error .endless
  | rounds + 1, done, pos => do
      match (← slice text pos (size text)).head? with
      | none => refuse .unterminatedString start
      | some c =>
          if c = quote then .ok (String.ofList done.reverse, pos + 1)
          else if c = '\n' ∨ c = '\r' then refuse .unterminatedString start
          else if c = '\\' then do
            let (decoded, pos) ← escape text (pos + 1)
            quotedFrom quote start rounds (decoded :: done) pos
          else quotedFrom quote start rounds (c :: done) (pos + c.utf8Size)

def string (quote : Char) (pos : Nat) : Step (String × Nat) := quotedFrom text quote pos (size text + 1) [] (pos + 1)

def sign (pos : Nat) : Bool × Nat :=
  if peek text pos = some '-' then (true, pos + 1)
  else if peek text pos = some '+' then (false, pos + 1)
  else (false, pos)

def endNumber (start pos : Nat) : Step Unit :=
  if (peek text pos).any isIdentRest then refuse .invalidNumber start else .ok ()

def hex (start : Nat) (negative : Bool) (pos : Nat) : Step (Json × Nat) := do
  let stop := run text isHexDigit pos
  match hexLong? (← slice text pos stop) with
  | none => refuse .invalidHex start
  | some magnitude =>
      endNumber text start stop
      .ok (← long (if negative then -magnitude else magnitude), stop)

def mantissa (pos : Nat) : Bool × Nat × Nat :=
  let whole := run text Char.isDigit pos
  if peek text whole = some '.' then
    let stop := run text Char.isDigit (whole + 1)
    (true, (whole - pos) + (stop - (whole + 1)), stop)
  else (false, whole - pos, whole)

def exponent (pos : Nat) : Step (Bool × Nat) :=
  if peek text pos = some 'e' ∨ peek text pos = some 'E' then
    let first := (sign text (pos + 1)).2
    let stop := run text Char.isDigit first
    if stop = first then refuse .missingExponent stop else .ok (true, stop)
  else .ok (false, pos)

def decimal (start pos : Nat) : Step (Json × Nat) := do
  let (point, digits, pos) := mantissa text pos
  if digits = 0 then refuse .invalidNumber start
  else
    let (power, pos) ← exponent text pos
    endNumber text start pos
    let numeral := (← slice text start pos).dropWhile (· = '+')
    .ok (← decimalData start (point || power) numeral, pos)

def number (start : Nat) : Step (Json × Nat) :=
  let (negative, pos) := sign text start
  if peek text pos = some '0' ∧ (peek text (pos + 1) = some 'x' ∨ peek text (pos + 1) = some 'X') then
    hex text start negative (pos + 2)
  else decimal text start pos

def word (p : Char → Bool) (pos : Nat) : Step (String × Nat) := do
  let stop := run text p pos
  .ok (String.ofList (← slice text pos stop), stop)

def key (pos : Nat) : Step (String × Nat) :=
  match peek text pos with
  | none => refuse .expectedKey pos
  | some b =>
      if b = '"' ∨ b = '\'' then string text b pos
      else if isIdentStart b then word text isIdentRest pos
      else if b.isDigit then word text Char.isDigit pos
      else if b = '\x7d' then refuse .expectedKey pos
      else refuse (.unexpectedInKey b) pos

def member (value : Nat → Step (Json × Nat)) (pos : Nat) : Step ((String × Json) × Nat) := do
  let (key, pos) ← key text pos
  let pos ← skip text pos
  if peek text pos = some ':' then
    let (data, pos) ← value (← skip text (pos + 1))
    .ok ((key, data), pos)
  else refuse (.expected ':') pos

def members (value : Nat → Step (Json × Nat)) : Nat → Fields → Nat → Step (Fields × Nat)
  | 0, _, _ => .error .endless
  | rounds + 1, fields, pos => do
      let pos ← skip text pos
      if peek text pos = some '\x7d' then .ok (fields, pos + 1)
      else
        let ((key, data), pos) ← member text value pos
        let fields := Fields.put key data fields
        let pos ← skip text pos
        match peek text pos with
        | none => refuse .unterminatedObject pos
        | some b =>
            if b = ',' then members value rounds fields (pos + 1)
            else if b = '\x7d' then .ok (fields, pos + 1)
            else refuse .expectedMemberEnd pos

def items (value : Nat → Step (Json × Nat)) : Nat → List Json → Nat → Step (List Json × Nat)
  | 0, _, _ => .error .endless
  | rounds + 1, done, pos => do
      let pos ← skip text pos
      if peek text pos = some ']' then .ok (done.reverse, pos + 1)
      else
        let (data, pos) ← value pos
        let done := data :: done
        let pos ← skip text pos
        match peek text pos with
        | none => refuse .unterminatedArray pos
        | some b =>
            if b = ',' then items value rounds done (pos + 1)
            else if b = ']' then .ok (done.reverse, pos + 1)
            else refuse .expectedItemEnd pos

def wordData (pos : Nat) : Step (Json × Nat) := do
  let (word, stop) ← word text isIdentRest pos
  wordBetween pos stop word

def value : Nat → Nat → Step (Json × Nat)
  | 0, pos => refuse .tooDeep pos
  | levels + 1, pos =>
      match peek text pos with
      | none => refuse .unexpectedEnd pos
      | some b =>
          if b = '\x7b' then do
            let (fields, pos) ← members text (value levels) (size text + 1) [] (pos + 1)
            .ok (.object fields, pos)
          else if b = '[' then do
            let (items, pos) ← items text (value levels) (size text + 1) [] (pos + 1)
            .ok (.array items, pos)
          else if b = '"' ∨ b = '\'' then do
            let (value, pos) ← string text b pos
            .ok (.text value, pos)
          else if b.isDigit ∨ b = '-' ∨ b = '+' ∨ b = '.' then number text pos
          else if isIdentStart b then wordData text pos
          else refuse (.unexpectedCharacter b) pos

def parse : Step Json := do
  let pos ← skip text 0
  if size text ≤ pos then refuse .noLiteral pos
  else
    let (data, pos) ← value text (maxDepth + 1) pos
    let pos ← skip text pos
    if size text ≤ pos then .ok data else refuse .trailingInput pos

end

end ShaderKnobs.Literal.Cursor
