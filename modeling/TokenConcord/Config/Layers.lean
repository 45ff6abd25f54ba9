import TokenConcord.Config.Basic
import TokenConcord.Config.KeyPath
import TokenConcord.Files
import TokenConcord.Grammar.Bundled
import TokenConcord.Grammar.Decode
import TokenConcord.Toml.Document

/-!
# Layers of a configuration

A configuration is made of layers over the built-in defaults. Files are laid over one
another in their order, and overrides over all files.
-/

namespace TokenConcord.Config

/-- A layer of a configuration. -/
inductive Layer where
  | file (path : Text) (required : Bool)
  | override (path : Text) (value : Scalar)

/-- Settings where no layer has others. -/
def defaults : Setting :=
  .table none
    [("grammar".toList, .emptyTable),
      ("incremental".toList,
        .table none [("check_offsets".toList, .scalar none (.boolean false))]),
      ("logging".toList,
        .table none [("filter".toList, .scalar none (.string "warn".toList))])]

/-! ## Files -/

/-- The name of a file with the ending of its format, where the name alone leads to none. -/
def withEnding (path : Text) : Option Text :=
  match (Files.parts path).getLast? with
  | none => none
  | some name =>
      if name = ['.'] ∨ name = ['.', '.'] then none
      else
        let trimmed := (path.reverse.dropWhile (· = '/')).reverse
        some (trimmed ++ ".toml".toList)

/-- The path under which a setting of a file is reported: without parts that stay in place. -/
def reportedPath (path : Text) : Text :=
  let parts := (Files.parts path).filter (· != ['.'])
  (Text.joinWith "/" (parts.map String.ofList)).toList

variable {m : Type → Type} [Monad m] (read : FileReader m)

/-- The file that a path leads to and its text. The ending may be left out. -/
def locate? (path : Text) : m (Option (Text × Text)) := do
  match ← read path with
  | .ok text => return some (path, text)
  | .error _ =>
      match withEnding path with
      | none => return none
      | some longer => return (← read longer).toOption.map fun text => (longer, text)

/-- A text without the byte order mark it may start with. -/
def withoutMark : Text → Text
  | '\ufeff' :: text => text
  | text => text

/-- Lay the settings of a TOML text over others. A name that is a path sets what the path
names. -/
def layText (root : Setting) (origin text : Text) : Except ConfigError Setting :=
  match Toml.entries? (withoutMark text) with
  | none => .error (.malformedFile origin)
  | some entries =>
      .ok (entries.foldl (fun root (name, value) =>
        let path := (KeyPath.ofText? name).getD ⟨name, []⟩
        path.set root (.ofToml (some origin) value)) root)

/-- Lay a file over settings. One that is not required may be missing. -/
def layFile (root : Setting) (path : Text) (required : Bool) : ExceptT ConfigError m Setting := do
  match ← ExceptT.lift (locate? read path) with
  | some (found, text) => layText root (reportedPath found) text
  | none => if required then throw (.missingFile path) else return root

/-! ## All layers -/

/-- The overrides among layers, in order. -/
def overrides : List Layer → Except ConfigError (List (KeyPath × Scalar))
  | [] => .ok []
  | .file .. :: layers => overrides layers
  | .override path value :: layers => do
      match KeyPath.ofText? path with
      | some path => return (path, value) :: (← overrides layers)
      | none => .error (.malformedPath path)

/-- Lay the files among layers over settings, in order. -/
def layFiles (root : Setting) : List Layer → ExceptT ConfigError m Setting
  | [] => return root
  | .file path required :: layers => do layFiles (← layFile read root path required) layers
  | .override .. :: layers => layFiles root layers

/-- The configuration of layers over the defaults. A fault in the path of an override counts
before any other. -/
def ofLayers (layers : List Layer) : ExceptT ConfigError m Config := do
  let overrides ← overrides layers
  let root ← layFiles read defaults layers
  ofSettings (overrides.foldl (fun root (path, value) => path.set root (.scalar none value)) root)

/-! ## Grammars -/

/-- The grammar that a configuration asks for. -/
def loadGrammar (config : Config) : ExceptT GrammarError m Grammar := do
  match config.grammarPath with
  | none => Bundled.grammar
  | some path =>
      match ← ExceptT.lift (read path) with
      | .ok text => Grammar.ofText text
      | .error cause => throw (.unreadable (String.ofList path) cause.message)

end TokenConcord.Config
