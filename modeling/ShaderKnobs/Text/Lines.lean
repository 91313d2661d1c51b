set_option autoImplicit false

namespace ShaderKnobs.Text

def dropReturn : List Char → List Char
  | '\r' :: line => line
  | line => line

def linesFrom (line : List Char) : List Char → List (List Char)
  | [] => if line = [] then [] else [line.reverse]
  | c :: rest =>
      if c = '\n' then (dropReturn line).reverse :: linesFrom [] rest
      else linesFrom (c :: line) rest

def lines (text : List Char) : List (List Char) := linesFrom [] text

end ShaderKnobs.Text
