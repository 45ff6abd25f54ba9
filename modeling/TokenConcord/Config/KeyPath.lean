import TokenConcord.Config.Setting
import TokenConcord.Text.Number

/-!
# Paths to settings

A path names a setting by the names of the tables around it, separated by dots, and by
indices in brackets. Setting a path makes the tables and arrays on the way.
-/

namespace TokenConcord.Config

/-- A step of a path. -/
inductive Step where
  | name (name : Text)
  | index (index : Int)
  deriving DecidableEq, Repr

/-- A path: a name and further steps. -/
structure KeyPath where
  root : Text
  steps : List Step
  deriving DecidableEq, Repr

namespace KeyPath

/-- Characters of a name. -/
def isNameChar (c : Char) : Bool := c.isAlphanum || c = ' ' || c = '_' || c = '-'

/-- An index, with spaces around it, in brackets that are open already. -/
def index? (text : Text) : Option (Int × Text) := do
  let text := text.dropWhile (· = ' ')
  let (negative, text) := match text with
    | '-' :: text => (true, text)
    | text => (false, text)
  let size ← Text.natural? 10 (text.takeWhile Char.isDigit)
  let limit := Nat.pow 2 63
  match (text.dropWhile Char.isDigit).dropWhile (· = ' ') with
  | ']' :: rest =>
      if size < limit || (negative && size = limit) then
        return (if negative then -(size : Int) else size, rest)
      else none
  | _ => none

/-- The steps behind the first name, of which there are no more than characters. -/
def steps? : Nat → Text → Option (List Step)
  | _, [] => some []
  | 0, _ => none
  | count + 1, '.' :: text => do
      let name := text.takeWhile isNameChar
      if name.isEmpty then none
      else return .name name :: (← steps? count (text.dropWhile isNameChar))
  | count + 1, '[' :: text => do
      let (index, rest) ← index? text
      return .index index :: (← steps? count rest)
  | _ + 1, _ => none

/-- The path that a text states. -/
def ofText? (text : Text) : Option KeyPath := do
  let root := text.takeWhile isNameChar
  if root.isEmpty then none
  else return ⟨root, ← steps? text.length (text.dropWhile isNameChar)⟩

/-- Set what lies some steps below a setting. -/
def setSteps (value : Setting) : List Step → Setting → Setting
  | [], _ => value
  | [.name name], setting => setting.merge name value
  | .name name :: steps, setting =>
      setting.put name (setSteps value steps ((setting.get? name).getD .unset))
  | .index index :: steps, setting =>
      setting.putItem index (setSteps value steps (setting.item index))

/-- Set what a path names. -/
def set (path : KeyPath) (root value : Setting) : Setting :=
  setSteps value (.name path.root :: path.steps) root

end KeyPath

end TokenConcord.Config
