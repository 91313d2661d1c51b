import ShaderKnobs.Text.Bytes

set_option autoImplicit false

namespace ShaderKnobs.Literal

inductive Cause where
  | noLiteral
  | trailingInput
  | unterminatedComment
  | tooDeep
  | nonFinite (name : String)
  | unknownIdentifier (name : String)
  | unexpectedCharacter (c : Char)
  | unexpectedEnd
  | expected (c : Char)
  | unterminatedObject
  | expectedMemberEnd
  | unterminatedArray
  | expectedItemEnd
  | expectedKey
  | unexpectedInKey (c : Char)
  | unterminatedString
  | unterminatedEscape
  | truncatedUnicode
  | invalidUnicode
  | unpairedSurrogate
  | invalidHex
  | invalidNumber
  | missingExponent
  | outOfRange (numeral : String)
  | notAnObject (found : String)
deriving DecidableEq

def Cause.message : Cause → String
  | .noLiteral => "expected a literal"
  | .trailingInput => "unexpected trailing input"
  | .unterminatedComment => "unterminated block comment"
  | .tooDeep => "literal nests too deeply"
  | .nonFinite name => "non-finite number '" ++ name ++ "' is not supported"
  | .unknownIdentifier name => "unexpected identifier '" ++ name ++ "'"
  | .unexpectedCharacter c => "unexpected character '" ++ c.toString ++ "'"
  | .unexpectedEnd => "unexpected end of input"
  | .expected c => "expected '" ++ c.toString ++ "'"
  | .unterminatedObject => "unterminated object"
  | .expectedMemberEnd => "expected ',' or '\x7d'"
  | .unterminatedArray => "unterminated array"
  | .expectedItemEnd => "expected ',' or ']'"
  | .expectedKey => "expected a key"
  | .unexpectedInKey c => "unexpected character '" ++ c.toString ++ "' in key"
  | .unterminatedString => "unterminated string"
  | .unterminatedEscape => "unterminated escape sequence"
  | .truncatedUnicode => "truncated unicode escape"
  | .invalidUnicode => "invalid unicode escape"
  | .unpairedSurrogate => "unpaired surrogate in escape"
  | .invalidHex => "invalid hex literal"
  | .invalidNumber => "invalid number"
  | .missingExponent => "missing exponent digits"
  | .outOfRange numeral => "number '" ++ numeral ++ "' is out of range"
  | .notAnObject found => "expected an object literal, found " ++ found

structure Failure where
  cause : Cause
  left : List Char
deriving DecidableEq

-- What a scanner answers. One that reads something at the front of a text answers with it and with the
-- text that follows.
abbrev Scan := Except Failure

def fail {α : Type} (cause : Cause) (left : List Char) : Scan α :=
  .error ⟨cause, left⟩

end ShaderKnobs.Literal

namespace ShaderKnobs

structure LiteralError where
  cause : Literal.Cause
  offset : Nat
deriving DecidableEq

def LiteralError.message (e : LiteralError) : String :=
  e.cause.message ++ " at offset " ++ toString e.offset

def Literal.Failure.within (text : List Char) (f : Literal.Failure) : LiteralError :=
  ⟨f.cause, Text.byteLength text - Text.byteLength f.left⟩

end ShaderKnobs
