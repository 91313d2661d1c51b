import ShaderKnobs.Toml.Numeral
import ShaderKnobs.Toml.Quoted

set_option autoImplicit false

namespace ShaderKnobs.Toml

def readScalar? : Read Scalar
  | 't' :: 'r' :: 'u' :: 'e' :: rest => some (.bool true, rest)
  | 'f' :: 'a' :: 'l' :: 's' :: 'e' :: rest => some (.bool false, rest)
  | c :: rest =>
      if isMark c then (readText? (c :: rest)).map fun (text, rest) => (.text text, rest)
      else readNumeral? (c :: rest)
  | [] => none

-- The items of an array after its opening bracket or a comma, up to the closing bracket; a comma may
-- stand before that. Each round takes at least one character, so a text's length bounds the rounds.
def readItems? (value : Read Node) : Nat → Read (List Node)
  | 0, _ => none
  | fuel + 1, text =>
      match skipFiller false text with
      | ']' :: rest => some ([], rest)
      | text => do
          let (item, rest) ← value text
          match skipFiller false rest with
          | ',' :: rest =>
              let (items, rest) ← readItems? value fuel rest
              some (item :: items, rest)
          | ']' :: rest => some ([item], rest)
          | _ => none

def readPair? (value : Read Node) : Read Table.Entry := fun text => do
  let (key, rest) ← readKey? text
  match rest with
  | '=' :: rest =>
      let (node, rest) ← value (skipSpace rest)
      some ((key, node), rest)
  | _ => none

def readEntries? (value : Read Node) : Nat → Read (List Table.Entry)
  | 0, _ => none
  | fuel + 1, text => do
      let (entry, rest) ← readPair? value text
      match skipSpace rest with
      | ',' :: rest =>
          let (entries, rest) ← readEntries? value fuel rest
          some (entry :: entries, rest)
      | '\x7d' :: rest => some ([entry], rest)
      | _ => none

def readBraces? (value : Read Node) : Read Node := fun text =>
  match skipSpace text with
  | '\x7d' :: rest => some (.table .braces [], rest)
  | text => do
      let (entries, rest) ← readEntries? value (text.length + 1) text
      let table ← Table.fill? entries []
      some (.table .braces table, rest)

def readValue? : Nat → Read Node
  | 0, text => (readScalar? text).map fun (value, rest) => (.scalar value, rest)
  | levels + 1, text =>
      match text with
      | '[' :: rest =>
          (readItems? (readValue? levels) (rest.length + 1) rest).map fun (items, rest) =>
            (.array items, rest)
      | '\x7b' :: rest => readBraces? (readValue? levels) rest
      | _ => (readScalar? text).map fun (value, rest) => (.scalar value, rest)

inductive Line where
  | header (header : Header)
  | entry (entry : Table.Entry)

def readHeader? (listed : Bool) (text : List Char) : Option (Line × List Char) := do
  let (path, rest) ← readKey? text
  match listed, rest with
  | false, ']' :: rest => some (.header ⟨path, false⟩, rest)
  | true, ']' :: ']' :: rest => some (.header ⟨path, true⟩, rest)
  | _, _ => none

def readLine? : Read Line
  | '[' :: '[' :: rest => readHeader? true rest
  | '[' :: rest => readHeader? false rest
  | text => (readPair? (readValue? maxDepth) text).map fun (entry, rest) => (.entry entry, rest)

-- The lines of a file that say something. Each round takes at least one character or ends.
def readAll? : Nat → List Char → Option (List Line)
  | 0, _ => none
  | fuel + 1, text =>
      if skipSpace text = [] then some []
      else match endLine? text with
        | some rest => readAll? fuel rest
        | none => do
            let (line, rest) ← readLine? (skipSpace text)
            let lines ← readAll? fuel (← endLine? rest)
            some (line :: lines)

def gather : List Line → List Table.Entry × List Part
  | [] => ([], [])
  | .entry entry :: rest => (entry :: (gather rest).1, (gather rest).2)
  | .header header :: rest => ([], ⟨header, (gather rest).1⟩ :: (gather rest).2)

def Table.ofLines? (lines : List Line) : Option Table := do
  let (entries, parts) := gather lines
  parts.foldlM Table.addPart? (← Table.fill? entries [])

def skipOrderMark : List Char → List Char
  | '\ufeff' :: rest => rest
  | text => text

def read? (text : String) : Option Table :=
  let chars := skipOrderMark text.toList
  (readAll? (chars.length + 1) chars).bind Table.ofLines?

end ShaderKnobs.Toml
