import ShaderKnobs.Literal.Token
import ShaderKnobs.Literal.Trivia

set_option autoImplicit false

namespace ShaderKnobs.Literal

def scanKey : List Char → Scan (String × List Char)
  | [] => fail .expectedKey []
  | c :: rest =>
      if c = '"' ∨ c = '\'' then scanString c rest
      else if isIdentStart c then
        .ok (String.ofList (spanIdent (c :: rest)).1, (spanIdent (c :: rest)).2)
      else if c.isDigit then
        .ok (String.ofList (Number.spanDigits (c :: rest)).1, (Number.spanDigits (c :: rest)).2)
      else if c = '\x7d' then fail .expectedKey (c :: rest)
      else fail (.unexpectedInKey (Text.leadByte c)) (c :: rest)

def scanMember (value : List Char → Scan (Json × List Char)) (text : List Char) :
    Scan ((String × Json) × List Char) := do
  let (key, rest) ← scanKey text
  match ← skipTrivia rest with
  | ':' :: rest =>
      let (data, rest) ← value (← skipTrivia rest)
      .ok ((key, data), rest)
  | rest => fail (.expected ':') rest

-- The members of an object after its opening brace or a comma, up to the closing brace. Each round takes
-- at least one character, so a text's length bounds the rounds.
def scanMembers (value : List Char → Scan (Json × List Char)) :
    Nat → Fields → List Char → Scan (Fields × List Char)
  | 0, _, text => fail .unterminatedObject text
  | fuel + 1, fields, text => do
      match ← skipTrivia text with
      | '\x7d' :: rest => .ok (fields, rest)
      | text =>
          let ((key, data), rest) ← scanMember value text
          let fields := Fields.put key data fields
          match ← skipTrivia rest with
          | ',' :: rest => scanMembers value fuel fields rest
          | '\x7d' :: rest => .ok (fields, rest)
          | [] => fail .unterminatedObject []
          | rest => fail .expectedMemberEnd rest

def scanItems (value : List Char → Scan (Json × List Char)) :
    Nat → List Json → List Char → Scan (List Json × List Char)
  | 0, _, text => fail .unterminatedArray text
  | fuel + 1, done, text => do
      match ← skipTrivia text with
      | ']' :: rest => .ok (done.reverse, rest)
      | text =>
          let (data, rest) ← value text
          let done := data :: done
          match ← skipTrivia rest with
          | ',' :: rest => scanItems value fuel done rest
          | ']' :: rest => .ok (done.reverse, rest)
          | [] => fail .unterminatedArray []
          | rest => fail .expectedItemEnd rest

def scanWord (start : List Char) : Scan (Json × List Char) :=
  let (word, rest) := spanIdent start
  match String.ofList word with
  | "true" => .ok (.bool true, rest)
  | "false" => .ok (.bool false, rest)
  | "null" | "undefined" => .ok (.null, rest)
  | "Infinity" => fail (.nonFinite "Infinity") start
  | "NaN" => fail (.nonFinite "NaN") start
  | other => fail (.unknownIdentifier other) start

def scanValue : Nat → List Char → Scan (Json × List Char)
  | 0, text => fail .tooDeep text
  | levels + 1, text =>
      match text with
      | [] => fail .unexpectedEnd []
      | c :: rest =>
          if c = '\x7b' then do
            let (fields, rest) ← scanMembers (scanValue levels) (rest.length + 1) [] rest
            .ok (.object fields, rest)
          else if c = '[' then do
            let (items, rest) ← scanItems (scanValue levels) (rest.length + 1) [] rest
            .ok (.array items, rest)
          else if c = '"' ∨ c = '\'' then do
            let (value, rest) ← scanString c rest
            .ok (.text value, rest)
          else if c.isDigit ∨ c = '-' ∨ c = '+' ∨ c = '.' then scanNumber (c :: rest)
          else if isIdentStart c then scanWord (c :: rest)
          else fail (.unexpectedCharacter (Text.leadByte c)) (c :: rest)

def maxDepth : Nat := 64

def parseChars (text : List Char) : Except Failure Json := do
  match ← skipTrivia text with
  | [] => fail .noLiteral []
  | text =>
      let (data, rest) ← scanValue (maxDepth + 1) text
      match ← skipTrivia rest with
      | [] => .ok data
      | rest => fail .trailingInput rest

def parse (text : String) : Except LiteralError Json :=
  (parseChars text.toList).mapError (·.within text.toList)

def describe : Json → String
  | .null => "null"
  | .bool _ => "a boolean"
  | .whole _ => "a number"
  | .real _ => "a number"
  | .text _ => "a string"
  | .array _ => "an array"
  | .object _ => "an object"

def parseObject (text : String) : Except LiteralError Fields := do
  match ← parse text with
  | .object fields => .ok fields
  | other => .error ⟨.notAnObject (describe other), 0⟩

end ShaderKnobs.Literal
