import TokenConcord.Text.Quoted

/-!
# Faults of a configuration
-/

namespace TokenConcord

/-- Why no configuration came out of the layers. -/
inductive ConfigError where
  /-- A file is not valid TOML. -/
  | malformedFile (path : Text)
  /-- The path of an override has the wrong form. -/
  | malformedPath (path : Text)
  | missingFile (path : Text)
  | missingField (name : String)
  /-- Something else stands in place of a group of settings. -/
  | notGroup (found group : String)
  /-- An array without items stands in place of a group of settings. -/
  | emptyGroup (group : String)
  /-- A setting cannot be converted. The file is given that it comes from, if any. -/
  | wrongType (found expected key : String) (origin : Option Text)
  deriving DecidableEq, Repr

/-- The fault as reported to the user. -/
def ConfigError.message : ConfigError → String
  | malformedFile path => "configuration file " ++ Text.quote path ++ " is not valid TOML"
  | malformedPath path => "invalid key " ++ Text.quote path
  | missingFile path => "configuration file \"" ++ String.ofList path ++ "\" not found"
  | missingField name => s!"missing field \x60{name}\x60"
  | notGroup found group => s!"invalid type: {found}, expected struct {group}"
  | emptyGroup group => s!"invalid length 0, expected struct {group} with 1 element"
  | wrongType found expected key origin =>
      let place := match origin with
        | some path => " in " ++ String.ofList path
        | none => ""
      s!"invalid type: {found}, expected {expected} for key \x60{key}\x60" ++ place

end TokenConcord
