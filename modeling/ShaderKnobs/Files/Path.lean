set_option autoImplicit false

namespace ShaderKnobs.Path

-- Drops slashes and idle points from the end of a directory given in reverse; a lone slash and a lone
-- point stay.
def trimEnd : List Char → List Char
  | ['/'] => ['/']
  | '/' :: rest => trimEnd rest
  | '.' :: '/' :: rest => trimEnd ('/' :: rest)
  | front => front

def directory (path : String) : String :=
  String.ofList (trimEnd (path.toList.reverse.dropWhile (· ≠ '/'))).reverse

-- The place of a path below a directory; a path that starts at the root stays as it is.
def join (base path : String) : String :=
  match path.toList with
  | '/' :: _ => path
  | _ =>
      match base.toList.getLast? with
      | none => path
      | some '/' => base ++ path
      | some _ => base ++ "/" ++ path

def partsFrom (part : List Char) : List Char → List (List Char)
  | [] => [part.reverse]
  | c :: rest => if c = '/' then part.reverse :: partsFrom [] rest else partsFrom (c :: part) rest

def parts (path : String) : List String := (partsFrom [] path.toList).map String.ofList

end ShaderKnobs.Path
