import ShaderKnobs.Files.Path

set_option autoImplicit false

namespace ShaderKnobs

inductive FileError where
  | missing
  | notDirectory
  | directory
  | nameTooLong
  | zeroInName
  | notText
  | other (text : String)
deriving DecidableEq

def FileError.message : FileError → String
  | .missing => "No such file or directory (os error 2)"
  | .notDirectory => "Not a directory (os error 20)"
  | .directory => "Is a directory (os error 21)"
  | .nameTooLong => "File name too long (os error 36)"
  | .zeroInName => "file name contained an unexpected NUL byte"
  | .notText => "stream did not contain valid UTF-8"
  | .other text => text

structure FileTree where
  files : List (List String × ByteArray)

namespace FileTree

def ofFiles (files : List (String × ByteArray)) : FileTree :=
  ⟨files.map fun file => (Path.parts file.1, file.2)⟩

def bytes? (tree : FileTree) (parts : List String) : Option ByteArray :=
  (tree.files.find? (·.1 = parts)).map (·.2)

def isDirectory (tree : FileTree) (parts : List String) : Bool :=
  tree.files.any fun file => parts.isPrefixOf file.1 && parts.length < file.1.length

def maxPart : Nat := 255

def maxPath : Nat := 4095

def find (tree : FileTree) : Option (List String) → List String → Except FileError ByteArray
  | _, [] => .error .directory
  | dir, part :: rest =>
      if part = "" ∨ part = "." then find tree dir rest
      else if part = ".." then
        match dir with
        | none => find tree none rest
        | some [] => find tree none rest
        | some (first :: others) => find tree (some (first :: others).dropLast) rest
      else if maxPart < part.utf8ByteSize then .error .nameTooLong
      else match dir with
        | none => .error .missing
        | some parts =>
            let place := parts ++ [part]
            match tree.bytes? place with
            | some bytes => if rest = [] then .ok bytes else .error .notDirectory
            | none =>
                if tree.isDirectory place then find tree (some place) rest else .error .missing

def bytes (tree : FileTree) (path : String) : Except FileError ByteArray :=
  if path.toList.contains '\x00' then .error .zeroInName
  else if path = "" then .error .missing
  else if maxPath < path.utf8ByteSize then .error .nameTooLong
  else
    let start := if path.toList.head? = some '/' then none else some []
    tree.find start (Path.parts path)

end FileTree

def textOfBytes (bytes : ByteArray) : Except FileError String :=
  match String.fromUTF8? bytes with
  | some text => .ok text
  | none => .error .notText

def FileTree.read (tree : FileTree) (path : String) : Except FileError String :=
  (tree.bytes path).bind textOfBytes

end ShaderKnobs
