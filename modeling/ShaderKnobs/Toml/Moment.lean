import ShaderKnobs.Number.Decimal
import ShaderKnobs.Toml.Trivia

set_option autoImplicit false

namespace ShaderKnobs.Toml

structure Date where
  year : Nat
  month : Nat
  day : Nat
deriving DecidableEq

structure Time where
  hour : Nat
  minute : Nat
  second : Nat
  nanosecond : Nat
deriving DecidableEq

inductive Offset where
  | zulu
  | minutes (count : Int)
deriving DecidableEq

inductive Moment where
  | date (date : Date)
  | time (time : Time)
  | instant (date : Date) (time : Time) (offset : Option Offset)
deriving DecidableEq

def isLeapYear (year : Nat) : Bool :=
  year % 4 = 0 && (year % 100 ≠ 0 || year % 400 = 0)

def daysInMonth (year month : Nat) : Nat :=
  if month = 2 then (if isLeapYear year then 29 else 28)
  else if month ∈ [4, 6, 9, 11] then 30
  else 31

def readCount? (digits : Nat) : Read Nat := fun text =>
  let front := text.take digits
  if front.length = digits ∧ front.all Char.isDigit then
    some (Number.ofDigits front, text.drop digits)
  else none

def readMark? (mark : Char) : Read Unit
  | c :: rest => if c = mark then some ((), rest) else none
  | [] => none

def readDate? : Read Date := fun text => do
  let (year, rest) ← readCount? 4 text
  let (_, rest) ← readMark? '-' rest
  let (month, rest) ← readCount? 2 rest
  let (_, rest) ← readMark? '-' rest
  let (day, rest) ← readCount? 2 rest
  if 1 ≤ month ∧ month ≤ 12 ∧ 1 ≤ day ∧ day ≤ daysInMonth year month then
    some (⟨year, month, day⟩, rest)
  else none

-- A fraction of a second in nanoseconds; digits beyond the ninth are dropped.
def readFraction? : Read Nat
  | '.' :: rest =>
      match Number.spanDigits rest with
      | ([], _) => none
      | (digits, rest) =>
          let kept := digits.take 9
          some (Number.ofDigits kept * 10 ^ (9 - kept.length), rest)
  | text => some (0, text)

def readTime? : Read Time := fun text => do
  let (hour, rest) ← readCount? 2 text
  let (_, rest) ← readMark? ':' rest
  let (minute, rest) ← readCount? 2 rest
  let (_, rest) ← readMark? ':' rest
  let (second, rest) ← readCount? 2 rest
  let (nanosecond, rest) ← readFraction? rest
  if hour ≤ 23 ∧ minute ≤ 59 ∧ second ≤ 60 then
    some (⟨hour, minute, second, nanosecond⟩, rest)
  else none

def readMinutes? : Read Nat := fun text => do
  let (hours, rest) ← readCount? 2 text
  let (_, rest) ← readMark? ':' rest
  let (minutes, rest) ← readCount? 2 rest
  if hours ≤ 23 ∧ minutes ≤ 59 then some (60 * hours + minutes, rest) else none

def readOffset? : Read (Option Offset)
  | c :: rest =>
      if c = 'Z' ∨ c = 'z' then some (some .zulu, rest)
      else if c = '+' then
        (readMinutes? rest).map fun (count, rest) => (some (.minutes count), rest)
      else if c = '-' then
        (readMinutes? rest).map fun (count, rest) => (some (.minutes (-count)), rest)
      else some (none, c :: rest)
  | [] => some (none, [])

def isDelimiter (c : Char) : Bool := c == 'T' || c == 't' || c == ' '

def readInstant? (date : Date) : Read Moment
  | c :: rest =>
      match (if isDelimiter c then readTime? rest else none) with
      | some (time, rest) =>
          (readOffset? rest).map fun (offset, rest) => (.instant date time offset, rest)
      | none => some (.date date, c :: rest)
  | [] => some (.date date, [])

def readMoment? : Read Moment := fun text =>
  match readDate? text with
  | some (date, rest) => readInstant? date rest
  | none => (readTime? text).map fun (time, rest) => (.time time, rest)

def Moment.ofText? (text : String) : Option Moment :=
  match readMoment? text.toList with
  | some (moment, []) => some moment
  | _ => none

def padded (width n : Nat) : String :=
  let digits := Nat.toDigits 10 n
  String.ofList (List.replicate (width - digits.length) '0' ++ digits)

def Date.text (d : Date) : String :=
  padded 4 d.year ++ "-" ++ padded 2 d.month ++ "-" ++ padded 2 d.day

def fractionText (nanosecond : Nat) : String :=
  if nanosecond = 0 then ""
  else "." ++ String.ofList
    ((padded 9 nanosecond).toList.reverse.dropWhile (· = '0')).reverse

def Time.text (t : Time) : String :=
  padded 2 t.hour ++ ":" ++ padded 2 t.minute ++ ":" ++ padded 2 t.second ++
    fractionText t.nanosecond

def Offset.text : Offset → String
  | .zulu => "Z"
  | .minutes count =>
      (if count < 0 then "-" else "+") ++ padded 2 (count.natAbs / 60) ++ ":" ++
        padded 2 (count.natAbs % 60)

def Moment.text : Moment → String
  | .date d => d.text
  | .time t => t.text
  | .instant d t offset => d.text ++ "T" ++ t.text ++ ((offset.map Offset.text).getD "")

end ShaderKnobs.Toml
