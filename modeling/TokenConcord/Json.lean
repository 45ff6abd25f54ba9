import TokenConcord.Text.Quoted

/-!
# JSON output

Values are written over several lines: each item of a list and each field of an object
stands on a line of its own, indented by two spaces more than what it belongs to.
-/

namespace TokenConcord

/-- A value to be written. Fields of an object keep their order. -/
inductive Json where
  | number (value : Nat)
  | boolean (value : Bool)
  | string (value : String)
  | list (items : List Json)
  | object (fields : List (String × Json))

namespace Json

/-- Written form of a character inside a text. Controls, quotes and backslashes are
escaped. -/
def escape (c : Char) : String :=
  if c = '"' then "\\\""
  else if c = '\\' then "\\\\"
  else if c = '\n' then "\\n"
  else if c = '\r' then "\\r"
  else if c = '\t' then "\\t"
  else if c = '\x08' then "\\b"
  else if c = '\x0c' then "\\f"
  else if c < ' ' then
    let digits := Text.hexDigits c.toNat
    "\\u" ++ String.ofList (List.replicate (4 - digits.length) '0') ++ digits
  else c.toString

/-- A text between quotes. -/
def quote (text : String) : String :=
  "\"" ++ String.join (text.toList.map escape) ++ "\""

/-- The start of a line, indented by a number of steps. -/
def lineStart (depth : Nat) : String :=
  "\n" ++ String.ofList (List.replicate (2 * depth) ' ')

mutual

/-- Written form of a value that stands at a depth. -/
def render (depth : Nat) : Json → String
  | number value => toString value
  | boolean value => if value then "true" else "false"
  | string value => quote value
  | list items =>
      if items.isEmpty then "[]"
      else "[" ++ Text.joinWith "," (renderItems (depth + 1) items) ++ lineStart depth ++ "]"
  | object fields =>
      if fields.isEmpty then "\x7b\x7d"
      else
        "\x7b" ++ Text.joinWith "," (renderFields (depth + 1) fields) ++ lineStart depth ++ "\x7d"

/-- Written forms of items, each on a line of its own. -/
def renderItems (depth : Nat) : List Json → List String
  | [] => []
  | item :: items => (lineStart depth ++ item.render depth) :: renderItems depth items

/-- Written forms of fields, each on a line of its own. -/
def renderFields (depth : Nat) : List (String × Json) → List String
  | [] => []
  | (name, value) :: fields =>
      (lineStart depth ++ quote name ++ ": " ++ value.render depth) :: renderFields depth fields

end

/-- Written form of a value. -/
def pretty (value : Json) : String := value.render 0

end Json

end TokenConcord
