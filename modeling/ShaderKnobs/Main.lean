import ShaderKnobs.Command.Help
import ShaderKnobs.Command.Run

set_option autoImplicit false

namespace ShaderKnobs

def readFile (path : String) : IO (Except FileError String) := do
  try
    return textOfBytes (← IO.FS.readBinFile path)
  catch
    | .noFileOrDirectory _ _ _ => return .error .missing
    | e => return .error (.other (toString e))

def printNotice (notice : Notice) : IO Unit := do
  let fields := notice.fields.map fun field => " " ++ field.1 ++ "=" ++ field.2
  IO.eprintln (notice.level.name ++ " " ++ notice.message ++ String.join fields)

def printOutcome (outcome : Outcome) : IO UInt32 := do
  outcome.notices.forM printNotice
  match outcome.result with
  | .ok text =>
      IO.print text
      return 0
  | .error e =>
      IO.eprintln ("error: " ++ String.intercalate ": " e.chain)
      return 1

def printUsage (e : UsageError) : IO UInt32 := do
  match e.answer? with
  | some text =>
      IO.print text
      return 0
  | none =>
      IO.eprintln ("error: " ++ e.message ++ "\n\n" ++ helpText)
      return 2

end ShaderKnobs

open ShaderKnobs in
def main (args : List String) : IO UInt32 := do
  match Arguments.parse args with
  | .error e => printUsage e
  | .ok request => printOutcome (← request.run readFile)
