import TokenConcord.Text.Quoted
import TokenConcord.Toml.Value
import TokenConcord.Unicode.LowerCase

/-!
# Settings

A tree of settings, each of which knows the file that it comes from. Settings are merged one
by one: a table is merged entry by entry into what is there, anything else takes its place.
Names are kept in lower case.
-/

namespace TokenConcord.Config

/-- A setting without parts. -/
inductive Scalar where
  | none
  | boolean (value : Bool)
  | integer (value : Int)
  | real (value : Toml.Real)
  | string (text : Text)
  deriving DecidableEq, Repr

/-- A setting and the file that it comes from, if any. -/
inductive Setting where
  | scalar (origin : Option Text) (value : Scalar)
  | array (origin : Option Text) (items : List Setting)
  | table (origin : Option Text) (entries : List (Text × Setting))

namespace Setting

/-- A setting that is not set. -/
def unset : Setting := .scalar none .none

/-- A table without entries. -/
def emptyTable : Setting := .table none []

/-- The file that a setting comes from. -/
def origin : Setting → Option Text
  | scalar origin _ => origin
  | array origin _ => origin
  | table origin _ => origin

mutual

/-- The setting that a value of a TOML file stands for. Moments are texts. -/
def ofToml (origin : Option Text) : Toml.Value → Setting
  | .string text => .scalar origin (.string text)
  | .moment text => .scalar origin (.string text)
  | .integer value => .scalar origin (.integer value)
  | .real value => .scalar origin (.real value)
  | .boolean value => .scalar origin (.boolean value)
  | .array items => .array origin (ofItems origin items)
  | .table entries => .table origin (ofEntries origin entries)

def ofItems (origin : Option Text) : List Toml.Value → List Setting
  | [] => []
  | item :: items => ofToml origin item :: ofItems origin items

/-- The settings of the entries of a TOML table. -/
def ofEntries (origin : Option Text) : List (Text × Toml.Value) → List (Text × Setting)
  | [] => []
  | (key, value) :: entries => (key, ofToml origin value) :: ofEntries origin entries

end

/-! ## Tables -/

/-- The entries of a table. Anything else has none. -/
def entries : Setting → List (Text × Setting)
  | table _ entries => entries
  | _ => []

/-- The setting itself if it is a table, and otherwise an empty one. -/
def asTable : Setting → Setting
  | table origin entries => table origin entries
  | _ => emptyTable

/-- The setting under a name. -/
def get? (setting : Setting) (name : Text) : Option Setting := setting.entries.lookup name

/-- Entries with a setting put under a name. -/
def putEntry (name : Text) (value : Setting) : List (Text × Setting) → List (Text × Setting)
  | [] => [(name, value)]
  | (other, old) :: entries =>
      if other = name then (name, value) :: entries
      else (other, old) :: putEntry name value entries

/-- A table with a setting put under a name. Anything else becomes a table first. -/
def put (setting : Setting) (name : Text) (value : Setting) : Setting :=
  let target := setting.asTable
  .table target.origin (putEntry name value target.entries)

mutual

/-- Set a name of a table. A table is merged into what is there under the name. -/
def merge (target : Setting) (name : Text) : Setting → Setting
  | .table _ entries =>
      let target := target.asTable
      let old := (target.get? name.lower).getD emptyTable
      target.put name.lower (mergeAll old entries)
  | .scalar origin value => target.put name.lower (.scalar origin value)
  | .array origin items => target.put name.lower (.array origin items)

/-- Set the names of a table one after another. -/
def mergeAll (target : Setting) : List (Text × Setting) → Setting
  | [] => target
  | (name, value) :: entries => mergeAll (merge target name value) entries

end

/-! ## Arrays -/

/-- The items of an array. Anything else has none. -/
def items : Setting → List Setting
  | array _ items => items
  | _ => []

/-- The position that an index stands for, where negative ones count from the end. -/
def position (index : Int) (size : Nat) : Nat :=
  if 0 ≤ index then index.toNat else size - index.natAbs

/-- The item at an index. -/
def item (setting : Setting) (index : Int) : Setting :=
  let items := setting.items
  (items[position index items.length]?).getD unset

/-- An array with a setting put at an index, behind as many unset ones as it takes. -/
def putItem (setting : Setting) (index : Int) (value : Setting) : Setting :=
  let items := setting.items
  let place := position index items.length
  let filled := items ++ List.replicate (place + 1 - items.length) unset
  let origin := match setting with
    | array origin _ => origin
    | _ => none
  .array origin (filled.set place value)

/-! ## Reports -/

/-- A real number as reported where it shows that it is one. -/
def pointed (value : Toml.Real) : String :=
  let text := value.toText
  if text.toList.contains '.' then text else text ++ ".0"

/-- What was found in place of a table, as reported to the user. -/
def describe : Setting → String
  | scalar _ .none => "unit value"
  | scalar _ (.boolean value) => s!"boolean \x60{value}\x60"
  | scalar _ (.integer value) => s!"integer \x60{value}\x60"
  | scalar _ (.real value) => "floating point \x60" ++ pointed value ++ "\x60"
  | scalar _ (.string text) => "string " ++ Text.quote text
  | array .. => "sequence"
  | table .. => "map"

end Setting

end TokenConcord.Config
