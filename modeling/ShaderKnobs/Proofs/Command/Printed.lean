import ShaderKnobs.Command.Inspect
import ShaderKnobs.Command.Simulate

set_option autoImplicit false

namespace ShaderKnobs

open Document (newLine prettyChars prettyFields prettyItems quoted)
open Number (Layout Single)

theorem int_digits_repr (n : Int) : Number.intDigits n = n.repr.toList := by
  cases n with
  | ofNat n => simp [Number.intDigits, Number.natDigits, Int.repr, Nat.repr]
  | negSucc n => simp [Number.intDigits, Number.natDigits, Int.repr, Nat.repr]

theorem quoted_plain (key : String) (plain : key.toList.flatMap Document.escapeChar = key.toList) :
    quoted key = '"' :: (key.toList ++ ['"']) := by
  rw [quoted, Document.quoteChars, plain]

def listText (items : List String) : String :=
  if items = [] then "[]\n" else "[\n" ++ String.intercalate ",\n" items ++ "\n]\n"

theorem pretty_list (first : Document) (rest : List Document) :
    prettyItems 0 (first :: rest) =
      '\n' :: ([',', '\n'].intercalate ((first :: rest).map fun item => ' ' :: ' ' :: prettyChars 1 item) ++
        ['\n', ']']) := by
  induction rest generalizing first with
  | nil => simp [prettyItems, newLine, List.replicate, List.intercalate]
  | cons next rest ih =>
      have here : prettyItems 0 (first :: next :: rest) =
          newLine 1 ++ prettyChars 1 first ++ ',' :: prettyItems 0 (next :: rest) := rfl
      rw [here, ih]
      simp [newLine, List.replicate, List.intercalate]

theorem pretty_list_text (items : List Document) :
    (Document.array items).pretty ++ "\n" =
      listText (items.map fun item => "  " ++ String.ofList (prettyChars 1 item)) := by
  apply String.toList_inj.mp
  cases items with
  | nil => rfl
  | cons first rest =>
      have here : prettyChars 0 (.array (first :: rest)) = '[' :: prettyItems 0 (first :: rest) := rfl
      rw [Document.pretty, here, pretty_list, listText, if_neg (by simp)]
      simp [String.toList_intercalate, Function.comp_def]

def padding (width : Nat) (text : String) : String := String.ofList (List.replicate (width - text.length) ' ')

-- A value, with its numbers and vectors written in the given ways.
def valueText (number : Single → String) (vector color : List String → String) : SlotValue → String
  | .bool true => "true"
  | .bool false => "false"
  | .int value => toString value.toInt
  | .float x => number x
  | .vec2 x y => vector [number x, number y]
  | .vec3 x y z => vector [number x, number y, number z]
  | .color r g b => color [number r, number g, number b]

namespace Simulation

def dataNumber (x : Single) : String := String.ofList (Layout.dataSingle.dataText x)

def dataVector (numbers : List String) : String :=
  "[\n        " ++ String.intercalate ",\n        " numbers ++ "\n      ]"

def rowText (v : UniformValue) : String :=
  "  \x7b\n    \"name\": " ++ String.ofList (quoted v.name) ++
    ",\n    \"source\": " ++ String.ofList (quoted v.source.name) ++
    ",\n    \"value\": \x7b\n      \"type\": " ++ String.ofList (quoted v.current.typeName) ++
    ",\n      \"value\": " ++ valueText dataNumber dataVector dataVector v.current ++ "\n    \x7d\n  \x7d"

theorem pretty_value (value : SlotValue) :
    prettyChars 3 value.valueDocument = (valueText dataNumber dataVector dataVector value).toList := by
  cases value with
  | bool value => cases value <;> rfl
  | int value => simp [SlotValue.valueDocument, Document.int, prettyChars, valueText, int_digits_repr]
  | float x => simp [SlotValue.valueDocument, Document.single, prettyChars, valueText, dataNumber]
  | _ => simp [SlotValue.valueDocument, Document.single, prettyChars, prettyItems, newLine, List.replicate, valueText,
      dataVector, dataNumber]

theorem pretty_row (v : UniformValue) : "  " ++ String.ofList (prettyChars 1 (row v)) = rowText v := by
  apply String.toList_inj.mp
  have name := quoted_plain "name" (by simp [Document.escapeChar])
  have source := quoted_plain "source" (by simp [Document.escapeChar])
  have type := quoted_plain "type" (by simp [Document.escapeChar])
  have value := quoted_plain "value" (by simp [Document.escapeChar])
  simp only [row, SlotValue.document, Document.text, prettyChars, prettyFields, newLine, Nat.reduceAdd, pretty_value, name,
    source, type, value]
  unfold rowText
  simp [List.replicate]

def plainNumber (x : Single) : String := Layout.plain.text x

def enclosed (opening : String) (numbers : List String) : String :=
  opening ++ String.intercalate ", " numbers ++ ")"

theorem display_value (value : SlotValue) :
    value.display = valueText plainNumber (enclosed "(") (enclosed "rgb(") value := by
  apply String.toList_inj.mp
  cases value with
  | bool value => cases value <;> rfl
  | int value => simp [SlotValue.display, valueText, int_digits_repr]
  | float x => rfl
  | _ => simp [SlotValue.display, SlotValue.numberText, valueText, enclosed, plainNumber]

def rowLine (v : UniformValue) : String :=
  "  " ++ v.name ++ padding 20 v.name ++ " " ++ v.source.name ++ padding 7 v.source.name ++ " " ++
    valueText plainNumber (enclosed "(") (enclosed "rgb(") v.current ++ "\n"

theorem line_printed (v : UniformValue) : line v = rowLine v := by
  unfold line rowLine
  simp only [display_value, Text.column, padding, String.append_assoc]

def printed (asData : Bool) (name : String) (frames : Nat) (rows : List UniformValue) : String :=
  if asData then listText (rows.map rowText)
  else "Uniforms of '" ++ name ++ "' after " ++ toString frames ++ " frame(s):\n" ++ String.join (rows.map rowLine)

theorem report_printed (asData : Bool) (s : Simulation) : s.report asData = printed asData s.name s.frames s.values := by
  cases asData with
  | true =>
      have rows : (s.values.map row).map (fun item => "  " ++ String.ofList (prettyChars 1 item)) =
          s.values.map rowText := by
        rw [List.map_map]
        exact List.map_congr_left fun v _ => pretty_row v
      calc s.report true = (Document.array (s.values.map row)).pretty ++ "\n" := rfl
        _ = listText (s.values.map rowText) := by rw [pretty_list_text, rows]
  | false =>
      have lines : s.values.map line = s.values.map rowLine := List.map_congr_left fun v _ => line_printed v
      change s.table = _
      unfold table
      rw [lines]
      rfl

end Simulation

namespace Inspect

def rowText (row : Row) : String :=
  "  \x7b\n    \"name\": " ++ String.ofList (quoted row.name) ++
    ",\n    \"type\": " ++ String.ofList (quoted row.type.name) ++ ",\n    \"line\": " ++ toString row.line ++
    ",\n    \"kind\": " ++ String.ofList (quoted row.kind.name) ++
    ",\n    \"initial\": " ++ String.ofList (prettyChars 2 row.initial.document) ++
    ",\n    \"params\": " ++ String.ofList (prettyChars 2 (Json.object row.params).document) ++ "\n  \x7d"

theorem pretty_row (row : Row) : "  " ++ String.ofList (prettyChars 1 row.document) = rowText row := by
  apply String.toList_inj.mp
  have name := quoted_plain "name" (by simp [Document.escapeChar])
  have type := quoted_plain "type" (by simp [Document.escapeChar])
  have line := quoted_plain "line" (by simp [Document.escapeChar])
  have kind := quoted_plain "kind" (by simp [Document.escapeChar])
  have initial := quoted_plain "initial" (by simp [Document.escapeChar])
  have params := quoted_plain "params" (by simp [Document.escapeChar])
  have number : Number.intDigits row.line = (toString row.line).toList := by
    simp [Number.intDigits, Number.natDigits]
  simp only [Row.document, Document.text, Document.int, prettyChars, prettyFields, newLine, Nat.reduceAdd, name, type,
    line, kind, initial, params, number]
  unfold rowText
  simp [List.replicate]

def paramsText (params : Fields) : String :=
  if params = [] then "" else " params=" ++ (Json.object params).document.compact

def rowLine (row : Row) : String :=
  "  " ++ row.name ++ padding 20 row.name ++ " " ++ row.type.name ++ padding 6 row.type.name ++
    " line=" ++ toString row.line ++ padding 4 (toString row.line) ++
    " kind=" ++ row.kind.name ++ padding 7 row.kind.name ++
    " initial=" ++ row.initial.document.compact ++ paramsText row.params ++ "\n"

theorem text_printed (row : Row) : row.text = rowLine row := by
  have params : Row.paramsText row.params = paramsText row.params := by
    cases params : row.params <;> rfl
  unfold Row.text rowLine
  simp only [params, Text.column, padding, String.append_assoc]

def printed (asData : Bool) (path : String) (rows : List Row) : String :=
  if asData then listText (rows.map rowText)
  else if rows = [] then "No annotated uniforms found in " ++ path ++ "\n"
  else "Annotated uniforms in " ++ path ++ ":\n" ++ String.join (rows.map rowLine)

theorem report_printed (asData : Bool) (path : String) (tunables : List Tunable) :
    report asData path tunables = printed asData path (tunables.map Row.ofTunable) := by
  unfold report
  generalize tunables.map Row.ofTunable = rows
  cases asData with
  | true =>
      have texts : (rows.map Row.document).map (fun item => "  " ++ String.ofList (prettyChars 1 item)) =
          rows.map rowText := by
        rw [List.map_map]
        exact List.map_congr_left fun row _ => pretty_row row
      calc data rows = (Document.array (rows.map Row.document)).pretty ++ "\n" := rfl
        _ = listText (rows.map rowText) := by rw [pretty_list_text, texts]
  | false =>
      have lines : rows.map Row.text = rows.map rowLine := List.map_congr_left fun row _ => text_printed row
      change table path rows = _
      unfold table printed
      rw [lines]
      cases rows <;> rfl

end Inspect

end ShaderKnobs
