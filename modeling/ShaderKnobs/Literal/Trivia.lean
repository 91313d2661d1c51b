import ShaderKnobs.Literal.Error
import ShaderKnobs.Text.Blank

set_option autoImplicit false

namespace ShaderKnobs.Literal

-- Whether a scan is between tokens or inside a comment; a block comment remembers the text from its
-- opening on.
inductive TriviaMode where
  | between
  | line
  | block (start : List Char)

def skipTriviaFrom : TriviaMode → List Char → Scan (List Char)
  | .between, '/' :: '/' :: rest => skipTriviaFrom .line rest
  | .between, '/' :: '*' :: rest => skipTriviaFrom (.block ('/' :: '*' :: rest)) rest
  | .between, c :: rest =>
      if Text.isAsciiBlank c then skipTriviaFrom .between rest else .ok (c :: rest)
  | .line, c :: rest =>
      if c = '\n' then skipTriviaFrom .between rest else skipTriviaFrom .line rest
  | .block _, '*' :: '/' :: rest => skipTriviaFrom .between rest
  | .block start, _ :: rest => skipTriviaFrom (.block start) rest
  | .block start, [] => fail .unterminatedComment start
  | .between, [] => .ok []
  | .line, [] => .ok []

def skipTrivia (text : List Char) : Scan (List Char) := skipTriviaFrom .between text

end ShaderKnobs.Literal
