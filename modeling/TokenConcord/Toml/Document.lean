import TokenConcord.Toml.Number
import TokenConcord.Toml.Table

/-!
# TOML documents

A document is a row of lines: headers, which say which table the next lines belong to, and
keys with their values.
-/

namespace TokenConcord.Toml

namespace Reading

/-- Deepest nesting of arrays and tables written as values. -/
def maxDepth : Nat := 79

/-- One or more items with commas between them, and maybe one behind the last item. -/
def separated (item : Reading α) (mayTrail : Bool) : Nat → Reading (List α)
  | 0 => failure
  | steps + 1 => do
      let first ← item
      if ← accept ',' then
        let more ← separated item mayTrail steps <|> (if mayTrail then pure [] else failure)
        return first :: more
      else return [first]

/-- An array. A comma may stand behind its last item. -/
def array (value : Reading Value) : Reading Value := do
  expect '['
  let item : Reading Value := do
    space
    let value ← value
    space
    return value
  let size := (← rest).length
  let items ← separated item true (size + 1) <|> pure []
  space
  expect ']'
  return .array items

/-- A key, an equals sign and a value. -/
def entry (value : Reading Value) : Reading ((List Text × Text) × Value) := do
  let key ← key
  expect '='
  blanks
  let value ← value
  blanks
  return (key, value)

/-- A table written as a value, on one line. -/
def inlineTable (value : Reading Value) : Reading Value := do
  expect '\x7b'
  blanks
  let size := (← rest).length
  let entries ← separated (entry value) false (size + 1) <|> pure []
  blanks
  expect '\x7d'
  let table ← (entries.foldlM (fun (table : Table) (key, value) => table.addValue key value)
    (.empty .opened)).getM
  return table.toValue

/-- A truth value. -/
def boolean : Reading Bool := (do word "true"; return true) <|> (do word "false"; return false)

/-- A value, nested no deeper than a number of levels. -/
def value : Nat → Reading Value
  | 0 => .string <$> text
      <|> .boolean <$> boolean
      <|> .moment <$> moment
      <|> .real <$> real
      <|> .integer <$> integer
  | levels + 1 =>
      array (value levels)
        <|> inlineTable (value levels)
        <|> value 0

end Reading

/-- A document up to some line: the tables so far and the header in force. -/
structure Draft where
  root : Table
  header : List Text

namespace Draft

/-- A document of which no line was read. -/
def empty : Draft := ⟨.empty .opened, []⟩

/-- Add the value of a key to the table in force. -/
def addValue (draft : Draft) (key : List Text × Text) (value : Value) : Option Draft := do
  let root ← draft.root.change false (·.addValue key value) draft.header
  return { draft with root }

/-- Put a header in force. -/
def openHeader (draft : Draft) (isElement : Bool) (key : List Text × Text) : Option Draft := do
  let root ← if isElement then draft.root.openElement key else draft.root.openTable key
  return ⟨root, key.1 ++ [key.2]⟩

end Draft

namespace Reading

/-- A header in brackets, doubled for the tables of an array. -/
def header (draft : Draft) : Reading Draft := do
  expect '['
  let isElement ← accept '['
  let key ← key
  expect ']'
  if isElement then expect ']'
  lineEnd
  (draft.openHeader isElement key).getM

/-- A key with its value. -/
def keyValue (draft : Draft) : Reading Draft := do
  let (key, value) ← entry (value maxDepth)
  lineEnd
  (draft.addValue key value).getM

/-- The lines of a document, of which there are no more than characters. -/
def lines : Nat → Draft → Reading Draft
  | 0, _ => failure
  | steps + 1, draft => do
      blanks
      if (← rest).isEmpty then return draft
      else if ← nextIs fun c => c = '#' || c = '\n' || c = '\r' then
        lineEnd
        lines steps draft
      else if ← nextIs (· = '[') then lines steps (← header draft)
      else lines steps (← keyValue draft)

end Reading

/-- The text without a byte order mark in front. -/
def withoutMark : Text → Text
  | '\ufeff' :: text => text
  | text => text

/-- The entries of the document that a text holds. -/
def entries? (text : Text) : Option (List (Text × Value)) := do
  let (draft, _) ← (Reading.lines (text.length + 1) .empty).run (withoutMark text)
  match draft.root.toValue with
  | .table entries => return entries
  | _ => none

end TokenConcord.Toml
