import ShaderKnobs.Json.Value
import ShaderKnobs.Number.Layout

set_option autoImplicit false

namespace ShaderKnobs

inductive Document where
  | leaf (text : List Char)
  | array (items : List Document)
  | object (fields : List (String × Document))

namespace Document

def hexDigit (n : Nat) : Char :=
  if n < 10 then Char.ofNat ('0'.toNat + n) else Char.ofNat ('a'.toNat + n - 10)

def escapeChar (c : Char) : List Char :=
  if c = '"' then ['\\', '"']
  else if c = '\\' then ['\\', '\\']
  else if c = '\n' then ['\\', 'n']
  else if c = '\r' then ['\\', 'r']
  else if c = '\t' then ['\\', 't']
  else if c = '\x08' then ['\\', 'b']
  else if c = '\x0c' then ['\\', 'f']
  else if c.toNat < 0x20 then
    ['\\', 'u', '0', '0', hexDigit (c.toNat / 16), hexDigit (c.toNat % 16)]
  else [c]

def quoteChars (text : List Char) : List Char :=
  '"' :: (text.flatMap escapeChar ++ ['"'])

def quoted (text : String) : List Char := quoteChars text.toList

def text (value : String) : Document := .leaf (quoted value)

def bool (value : Bool) : Document := .leaf (if value then "true".toList else "false".toList)

def int (value : Int) : Document := .leaf (Number.intDigits value)

def double (value : Number.Double) : Document := .leaf (Number.Layout.dataDouble.dataText value)

def single (value : Number.Single) : Document := .leaf (Number.Layout.dataSingle.dataText value)

mutual
def compactChars : Document → List Char
  | .leaf text => text
  | .array items => '[' :: compactItems items
  | .object fields => '\x7b' :: compactFields fields

def compactItems : List Document → List Char
  | [] => [']']
  | [item] => compactChars item ++ [']']
  | item :: rest => compactChars item ++ ',' :: compactItems rest

def compactFields : List (String × Document) → List Char
  | [] => ['\x7d']
  | [(key, value)] => quoted key ++ ':' :: (compactChars value ++ ['\x7d'])
  | (key, value) :: rest =>
      quoted key ++ ':' :: (compactChars value ++ ',' :: compactFields rest)
end

def newLine (depth : Nat) : List Char := '\n' :: List.replicate (2 * depth) ' '

mutual
def prettyChars (depth : Nat) : Document → List Char
  | .leaf text => text
  | .array [] => ['[', ']']
  | .array (item :: rest) => '[' :: prettyItems depth (item :: rest)
  | .object [] => ['\x7b', '\x7d']
  | .object (field :: rest) => '\x7b' :: prettyFields depth (field :: rest)

def prettyItems (depth : Nat) : List Document → List Char
  | [] => newLine depth ++ [']']
  | [item] => newLine (depth + 1) ++ prettyChars (depth + 1) item ++ newLine depth ++ [']']
  | item :: rest =>
      newLine (depth + 1) ++ prettyChars (depth + 1) item ++ ',' :: prettyItems depth rest

def prettyFields (depth : Nat) : List (String × Document) → List Char
  | [] => newLine depth ++ ['\x7d']
  | [(key, value)] =>
      newLine (depth + 1) ++ quoted key ++ ':' :: ' ' :: prettyChars (depth + 1) value ++
        newLine depth ++ ['\x7d']
  | (key, value) :: rest =>
      newLine (depth + 1) ++ quoted key ++ ':' :: ' ' :: prettyChars (depth + 1) value ++
        ',' :: prettyFields depth rest
end

def compact (doc : Document) : String := String.ofList doc.compactChars

def pretty (doc : Document) : String := String.ofList (doc.prettyChars 0)

end Document

namespace Json

mutual
def document : Json → Document
  | .null => .leaf "null".toList
  | .bool value => .bool value
  | .whole n => .int n.value
  | .real x => .leaf (Number.Layout.dataDouble.finite x)
  | .text value => .text value
  | .array items => .array (documents items)
  | .object fields => .object (fieldDocuments fields)

def documents : List Json → List Document
  | [] => []
  | item :: rest => item.document :: documents rest

def fieldDocuments : List (String × Json) → List (String × Document)
  | [] => []
  | (key, value) :: rest => (key, value.document) :: fieldDocuments rest
end

theorem documents_map (items : List Json) : documents items = items.map document := by
  induction items with
  | nil => rfl
  | cons item rest ih => rw [documents, ih, List.map_cons]

theorem field_documents_map (fields : List (String × Json)) :
    fieldDocuments fields = fields.map fun field => (field.1, field.2.document) := by
  induction fields with
  | nil => rfl
  | cons field rest ih => rw [fieldDocuments, ih, List.map_cons]

def compact (data : Json) : String := data.document.compact

end Json

end ShaderKnobs
