import ShaderKnobs.Command.Assignment
import ShaderKnobs.Number.Decimal

set_option autoImplicit false

namespace ShaderKnobs

inductive UsageError where
  | helpAsked
  | versionAsked
  | nothingAsked
  | unknownCommand (name : String)
  | unknownArgument (text : String)
  | missingPath
  | missingValue
  | badFrames (text : String)
  | badAssignment (fault : Assignment.Fault)
  | repeated
  | unwantedValue
deriving DecidableEq

inductive Request where
  | inspect (path : String) (asData : Bool)
  | simulate (path : String) (edits : List Assignment) (frames : Nat) (asData : Bool)
deriving DecidableEq

namespace Arguments

inductive Command where
  | inspect
  | simulate
deriving DecidableEq

def Command.ofName? : String → Option Command
  | "inspect" => some .inspect
  | "simulate" => some .simulate
  | _ => none

inductive Field where
  | path
  | frames
  | edit
deriving DecidableEq

inductive Flag where
  | asData
  | valued (field : Field)
deriving DecidableEq

def Command.flag? : Command → String → Option Flag
  | _, "json" => some .asData
  | .simulate, "frames" => some (.valued .frames)
  | .simulate, "set" => some (.valued .edit)
  | _, _ => none

structure Draft where
  path : Option String
  edits : List Assignment
  frames : Option Nat
  asData : Bool

def Draft.empty : Draft := ⟨none, [], none, false⟩

structure Progress where
  draft : Draft
  pending : Option (Field × Option String)
  placed : Bool
  onlyPaths : Bool

def Progress.start : Progress := ⟨.empty, none, false, false⟩

def readFrames? (text : String) : Option Nat :=
  let (negative, digits) := Number.readSign text.toList
  let n := Number.ofDigits digits
  if digits ≠ [] ∧ digits.all Char.isDigit ∧ n < 2 ^ 32 ∧ (negative → n = 0) then some n else none

def judge (draft : Draft) : Field × Option String → Except UsageError Draft
  | (_, none) => .error .missingValue
  | (.path, some text) =>
      if text = "" then .error .missingValue else .ok { draft with path := some text }
  | (.frames, some text) =>
      if draft.frames.isSome then .error .repeated
      else match readFrames? text with
        | none => .error (.badFrames text)
        | some n => .ok { draft with frames := some n }
  | (.edit, some text) =>
      match Assignment.parse text with
      | .error fault => .error (.badAssignment fault)
      | .ok edit => .ok { draft with edits := draft.edits ++ [edit] }

def settle (p : Progress) : Except UsageError Progress :=
  match p.pending with
  | none => .ok p
  | some value => (judge p.draft value).map fun draft => { p with draft := draft, pending := none }

def splitValue (text : List Char) : String × Option String :=
  let name := String.ofList (text.takeWhile (· ≠ '='))
  match text.dropWhile (· ≠ '=') with
  | [] => (name, none)
  | _ :: value => (name, some (String.ofList value))

def takeOption (command : Command) (name : String) (value : Option String) (p : Progress) :
    Except UsageError Progress :=
  if name = "help" then
    if value.isSome then .error .unwantedValue else (settle p).bind fun _ => .error .helpAsked
  else match command.flag? name, value with
    | none, _ => .error (.unknownArgument name)
    | some .asData, some _ => .error .unwantedValue
    | some .asData, none => do
        let p ← settle p
        if p.draft.asData then .error .repeated
        else .ok { p with draft := { p.draft with asData := true } }
    | some (.valued field), none => do
        .ok { ← settle p with pending := some (field, none) }
    | some (.valued field), some text => do
        settle { ← settle p with pending := some (field, some text) }

def takePath (text : String) (p : Progress) : Except UsageError Progress :=
  if p.placed then .error (.unknownArgument text)
  else do .ok { ← settle p with pending := some (.path, some text), placed := true }

-- Takes one argument. A lone dash is no option.
def take (command : Command) (p : Progress) (arg : String) : Except UsageError Progress :=
  if p.onlyPaths then takePath arg p
  else match arg.toList with
    | ['-', '-'] => .ok { p with onlyPaths := true }
    | '-' :: '-' :: text =>
        takeOption command (splitValue text).1 (splitValue text).2 p
    | '-' :: c :: _ =>
        if c = 'h' then (settle p).bind fun _ => .error .helpAsked
        else .error (.unknownArgument arg)
    | _ =>
        match p.pending with
        | some (field, none) => .ok { p with pending := some (field, some arg) }
        | _ => takePath arg p

def Draft.request (command : Command) (draft : Draft) : Except UsageError Request :=
  match draft.path with
  | none => .error .missingPath
  | some path => .ok (match command with
      | .inspect => .inspect path draft.asData
      | .simulate => .simulate path draft.edits (draft.frames.getD 1) draft.asData)

def parseCommand (command : Command) (args : List String) : Except UsageError Request := do
  let p ← settle (← args.foldlM (take command) .start)
  p.draft.request command

def isCommandName (name : String) : Bool := (Command.ofName? name).isSome || name == "help"

def helpFor : List String → UsageError
  | [] => .helpAsked
  | name :: rest =>
      if !isCommandName name then .unknownCommand name
      else match rest with
        | [] => .helpAsked
        | other :: _ => .unknownCommand other

def afterDashes : List String → UsageError
  | [] => .nothingAsked
  | arg :: _ => if isCommandName arg then .unknownArgument arg else .unknownCommand arg

def takeFirst (arg : String) (rest : List String) : UsageError :=
  if arg = "help" then helpFor rest
  else match arg.toList with
    | ['-', '-'] => afterDashes rest
    | '-' :: '-' :: text =>
        match splitValue text with
        | ("help", value) => if value.isSome then .unwantedValue else .helpAsked
        | ("version", value) => if value.isSome then .unwantedValue else .versionAsked
        | _ => .unknownArgument arg
    | '-' :: c :: _ =>
        if c = 'h' then .helpAsked else if c = 'V' then .versionAsked else .unknownArgument arg
    | _ => .unknownCommand arg

def parse : List String → Except UsageError Request
  | [] => .error .nothingAsked
  | arg :: rest =>
      match Command.ofName? arg with
      | some command => parseCommand command rest
      | none => .error (takeFirst arg rest)

end Arguments

end ShaderKnobs
