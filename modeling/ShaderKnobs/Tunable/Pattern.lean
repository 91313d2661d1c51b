import ShaderKnobs.Text.Blank
import ShaderKnobs.Text.Word

set_option autoImplicit false

namespace ShaderKnobs.Tunable

structure Parts where
  type : List Char
  name : List Char
  literal : List Char
deriving DecidableEq

def afterWord? : List Char → List Char → Option (List Char)
  | [], text => some text
  | expected :: word, c :: text => if expected = c then afterWord? word text else none
  | _ :: _, [] => none

def skipBlanks (text : List Char) : List Char := text.dropWhile Text.isBlank

def afterBlanks? : List Char → Option (List Char)
  | c :: rest => if Text.isBlank c then some (skipBlanks rest) else none
  | [] => none

-- A word of at least one character and what follows it. No blank is a word character, so the word ends
-- where the pattern needs a blank.
def takeWord? (text : List Char) : Option (List Char × List Char) :=
  match text.takeWhile Text.isWord with
  | [] => none
  | word => some (word, text.dropWhile Text.isWord)

def skipSemicolon : List Char → List Char
  | ';' :: rest => rest
  | text => text

def beforeLastParen? (text : List Char) : Option (List Char) :=
  match text.reverse.dropWhile (· ≠ ')') with
  | [] => none
  | _ :: front => some front.reverse

-- The text in the parentheses, which is not empty: it runs to the last closing parenthesis after its
-- first character.
def takeLiteral? : List Char → Option (List Char)
  | [] => none
  | c :: rest => (beforeLastParen? rest).map (c :: ·)

def matchHere? (text : List Char) : Option Parts := do
  let rest ← afterWord? "uniform".toList text
  let rest ← afterBlanks? rest
  let (type, rest) ← takeWord? rest
  let rest ← afterBlanks? rest
  let (name, rest) ← takeWord? rest
  let rest ← afterWord? "//".toList (skipBlanks (skipSemicolon (skipBlanks rest)))
  let rest ← afterWord? "ts(".toList (skipBlanks rest)
  let literal ← takeLiteral? rest
  some ⟨type, name, literal⟩

def matchLine? : List Char → Option Parts
  | [] => none
  | c :: rest => (matchHere? (c :: rest)).or (matchLine? rest)

end ShaderKnobs.Tunable
