import ShaderKnobs.Text.Read

set_option autoImplicit false

namespace ShaderKnobs.Toml

def isSpace (c : Char) : Bool := c == ' ' || c == '\t'

def skipSpace (text : List Char) : List Char := text.dropWhile isSpace

def isPrintable (c : Char) : Bool := c == '\t' || (0x20 ≤ c.toNat && c.toNat != 0x7f)

def afterNewline? : List Char → Option (List Char)
  | '\n' :: rest => some rest
  | '\r' :: '\n' :: rest => some rest
  | _ => none

def skipLines : List Char → List Char
  | '\r' :: '\n' :: rest => skipLines rest
  | c :: rest => if isSpace c || c == '\n' then skipLines rest else c :: rest
  | [] => []

def skipFiller (comment : Bool) : List Char → List Char
  | '\r' :: '\n' :: rest => skipFiller false rest
  | c :: rest =>
      if comment && isPrintable c then skipFiller true rest
      else if c = '#' then skipFiller true rest
      else if isSpace c || c == '\n' then skipFiller false rest
      else c :: rest
  | [] => []

def endLine? (text : List Char) : Option (List Char) :=
  let rest := match skipSpace text with
    | '#' :: comment => comment.dropWhile isPrintable
    | other => other
  if rest = [] then some [] else afterNewline? rest

end ShaderKnobs.Toml
