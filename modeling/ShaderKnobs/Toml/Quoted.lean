import ShaderKnobs.Text.Bytes
import ShaderKnobs.Toml.Trivia

set_option autoImplicit false

namespace ShaderKnobs.Toml

def scalar? (code : Nat) : Option Char :=
  if code.isValidChar then some (Char.ofNat code) else none

def readEscape? : Read Char
  | 'b' :: rest => some ('\x08', rest)
  | 't' :: rest => some ('\t', rest)
  | 'n' :: rest => some ('\n', rest)
  | 'f' :: rest => some ('\x0c', rest)
  | 'r' :: rest => some ('\r', rest)
  | '"' :: rest => some ('"', rest)
  | '\\' :: rest => some ('\\', rest)
  | 'u' :: a :: b :: c :: d :: rest =>
      ((Text.hexValue? [a, b, c, d]).bind scalar?).map (·, rest)
  | 'U' :: a :: b :: c :: d :: e :: f :: g :: h :: rest =>
      ((Text.hexValue? [a, b, c, d, e, f, g, h]).bind scalar?).map (·, rest)
  | _ => none

def readInline? (mark : Char) : Nat → List Char → Read String
  | 0, _, _ => none
  | _ + 1, _, [] => none
  | fuel + 1, done, c :: rest =>
      if c = mark then some (String.ofList done.reverse, rest)
      else if c = '\\' ∧ mark = '"' then do
        let (decoded, rest) ← readEscape? rest
        readInline? mark fuel (decoded :: done) rest
      else if isPrintable c then readInline? mark fuel (c :: done) rest
      else none

def afterHiddenNewline? (text : List Char) : Option (List Char) :=
  (afterNewline? (skipSpace text)).map skipLines

def afterTriple? (mark : Char) : List Char → Option (List Char)
  | a :: b :: c :: rest => if a = mark ∧ b = mark ∧ c = mark then some rest else none
  | _ => none

-- Up to two marks that stand right after three: they belong to the text, and the last three close it.
def spanMarks (mark : Char) (text : List Char) : List Char × List Char :=
  let marks := (text.take 2).takeWhile (· = mark)
  (marks, text.drop marks.length)

def readLines? (mark : Char) : Nat → List Char → Read String
  | 0, _, _ => none
  | _ + 1, _, [] => none
  | fuel + 1, done, c :: rest =>
      match afterTriple? mark (c :: rest), afterNewline? (c :: rest) with
      | some rest, _ =>
          let (marks, rest) := spanMarks mark rest
          some (String.ofList (done.reverse ++ marks), rest)
      | none, some rest => readLines? mark fuel ('\n' :: done) rest
      | none, none =>
          if c = '\\' ∧ mark = '"' then
            match afterHiddenNewline? rest with
            | some rest => readLines? mark fuel done rest
            | none => do
                let (decoded, rest) ← readEscape? rest
                readLines? mark fuel (decoded :: done) rest
          else if isPrintable c then readLines? mark fuel (c :: done) rest
          else none

def isMark (c : Char) : Bool := c == '"' || c == '\''

def readShort? : Read String
  | [] => none
  | c :: rest => if isMark c then readInline? c (rest.length + 1) [] rest else none

-- A text in quotes of any kind. A line end right after three opening marks is left out.
def readText? : Read String
  | [] => none
  | c :: rest =>
      if isMark c then
        match afterTriple? c (c :: rest) with
        | some body => readLines? c (body.length + 1) [] ((afterNewline? body).getD body)
        | none => readShort? (c :: rest)
      else none

def isBareChar (c : Char) : Bool := c.isAlphanum || c == '-' || c == '_'

def readPart? : Read String
  | [] => none
  | c :: rest =>
      if isMark c then readShort? (c :: rest)
      else if isBareChar c then
        some (String.ofList ((c :: rest).takeWhile isBareChar), (c :: rest).dropWhile isBareChar)
      else none

def readParts? : Nat → Read (List String)
  | 0, _ => none
  | limit + 1, text => do
      let (part, rest) ← readPart? (skipSpace text)
      match skipSpace rest with
      | '.' :: rest =>
          let (parts, rest) ← readParts? limit rest
          some (part :: parts, rest)
      | rest => some ([part], rest)

def maxDepth : Nat := 79

def readKey? : Read (List String) := readParts? maxDepth

end ShaderKnobs.Toml
