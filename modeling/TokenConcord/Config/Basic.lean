import TokenConcord.Config.Error
import TokenConcord.Config.Setting
import TokenConcord.Reconcile.Incremental

/-!
# Configurations

The settings that the program knows: which grammar to load, whether positions are compared
from line to line, and what is logged. They are read from the tree of all settings, where
each belongs to a group. Values are converted leniently: many words stand for a truth value,
and plain values stand for texts.
-/

namespace TokenConcord

namespace Config

/-! ## Conversions -/

/-- What was found in place of a value, as reported to the user. -/
def Setting.describeValue : Setting → String
  | .scalar _ (.real value) => "floating point \x60" ++ value.toText ++ "\x60"
  | setting => setting.describe

/-- The fault of a setting that cannot be converted. -/
def Setting.wrongType (setting : Setting) (expected key : String) : ConfigError :=
  .wrongType setting.describeValue expected key setting.origin

/-- The truth value of a setting. -/
def Setting.toBool (setting : Setting) (key : String) : Except ConfigError Bool :=
  match setting with
  | .scalar _ (.boolean value) => .ok value
  | .scalar _ (.integer value) => .ok (value != 0)
  | .scalar _ (.real value) => .ok (!value.isZero)
  | .scalar origin (.string text) =>
      let word := text.lower
      if ["1", "true", "on", "yes"].any (·.toList = word) then .ok true
      else if ["0", "false", "off", "no"].any (·.toList = word) then .ok false
      else .error (Setting.wrongType (.scalar origin (.string word)) "a boolean" key)
  | setting => .error (setting.wrongType "a boolean" key)

/-- The text of a setting. -/
def Setting.toText (setting : Setting) (key : String) : Except ConfigError Text :=
  match setting with
  | .scalar _ (.string text) => .ok text
  | .scalar _ (.boolean value) => .ok (toString value).toList
  | .scalar _ (.integer value) => .ok (toString value).toList
  | .scalar _ (.real value) => .ok value.toText.toList
  | setting => .error (setting.wrongType "a string" key)

/-! ## Groups -/

/-- The only setting of a group, with the key under which it is reported. A group is a table
or an array, and in an array its setting is the first item. -/
def member (root : Setting) (group : String) (kind field : String) :
    Except ConfigError (Option (Setting × String)) :=
  match root.get? group.toList with
  | none => .error (.missingField group)
  | some (.table _ entries) =>
      .ok ((entries.lookup field.toList).map fun setting => (setting, s!"{group}.{field}"))
  | some (.array _ []) => .error (.emptyGroup kind)
  | some (.array _ (setting :: _)) => .ok (some (setting, s!"{group}[0]"))
  | some setting => .error (.notGroup setting.describe kind)

/-- The only setting of a group, which may not be missing. -/
def requiredMember (root : Setting) (group kind field : String) :
    Except ConfigError (Setting × String) := do
  match ← member root group kind field with
  | some found => .ok found
  | none => .error (.missingField field)

/-- The path of the grammar, unless it is left out. So may its group be. -/
def Setting.grammarPath (root : Setting) : Except ConfigError (Option Text) :=
  match member root "grammar" "GrammarConfig" "path" with
  | .ok (some (setting, key)) =>
      match setting with
      | .scalar _ .none => .ok none
      | setting => (setting.toText key).map some
  | .ok none | .error (.missingField _) | .error (.emptyGroup _) => .ok none
  | .error fault => .error fault

end Config

/-- A configuration. -/
structure Config where
  /-- The grammar to load in place of the bundled one. -/
  grammarPath : Option Text
  checkOffsets : Bool
  /-- What is logged. -/
  filter : Text
  deriving DecidableEq, Repr

namespace Config

/-- What is compared after each line. -/
def offsetCheck (config : Config) : OffsetCheck := .ofFlag config.checkOffsets

/-- The configuration in a tree of settings. -/
def ofSettings (root : Setting) : Except ConfigError Config := do
  let grammarPath ← root.grammarPath
  let (offsets, offsetsKey) ←
    requiredMember root "incremental" "IncrementalConfig" "check_offsets"
  let checkOffsets ← offsets.toBool offsetsKey
  let (filter, filterKey) ← requiredMember root "logging" "LoggingConfig" "filter"
  return ⟨grammarPath, checkOffsets, ← filter.toText filterKey⟩

end Config

end TokenConcord
