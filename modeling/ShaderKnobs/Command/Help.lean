import ShaderKnobs.Command.Arguments

set_option autoImplicit false

namespace ShaderKnobs

def helpText : String :=
  "Lists and exercises the annotated uniforms of shaders.\n\n" ++
  "usage:\n" ++
  "  shaderknobs inspect [--json] FRAGMENT\n" ++
  "  shaderknobs simulate [--frames N] [--set NAME=LITERAL]... [--json] PROJECT\n" ++
  "  shaderknobs help [COMMAND]\n" ++
  "  shaderknobs --version\n"

def versionText : String := "shaderknobs 0.1.0\n"

namespace UsageError

def answer? : UsageError → Option String
  | .helpAsked => some helpText
  | .versionAsked => some versionText
  | _ => none

def message : UsageError → String
  | .helpAsked => "help was asked for"
  | .versionAsked => "the version was asked for"
  | .nothingAsked => "a command is missing"
  | .unknownCommand name => "unknown command '" ++ name ++ "'"
  | .unknownArgument text => "unexpected argument '" ++ text ++ "'"
  | .missingPath => "a path is missing"
  | .missingValue => "a value is missing or empty"
  | .badFrames text => "'" ++ text ++ "' is not a number of frames"
  | .badAssignment fault => fault.message
  | .repeated => "an option is given twice"
  | .unwantedValue => "an option is given a value that it does not take"

end UsageError

end ShaderKnobs
