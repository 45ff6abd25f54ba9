import TokenConcord.Grammar.Compile
import TokenConcord.Yaml.Document
import TokenConcord.Yaml.Value

/-!
# Artifacts in YAML

How a YAML document is read as a grammar artifact. A text may be any scalar, an optional
text may be null, and a list or a mapping may be left out. Fields with other names are passed
over unread. Nesting is limited, and so is the use of aliases, by which a short document
could stand for a huge one.
-/

namespace TokenConcord

open Yaml (Node Document PlainValue)

/-- A step that reads part of an artifact or finds it faulty. The state is the number of
aliases that may still be followed. -/
abbrev Decoding := StateT Nat Option

namespace Decoding

/-- Deepest nesting of sequences and mappings. -/
def maxDepth : Nat := 128

/-- How often the aliases of a document may be followed for each of its marks. -/
def aliasAllowance : Nat := 100

/-! ## Scalars -/

/-- The node itself, or the one that an alias stands for. -/
def follow (document : Document) : Node → Decoding Node
  | .reference slot => do
      match ← get with
      | 0 => failure
      | left + 1 =>
          set left
          (document.target? slot).getM
  | node => return node

/-- Tag of a scalar under the standard handle. -/
def standardTag (name : String) : Option Text :=
  some ("tag:yaml.org,2002:".toList ++ name.toList)

/-- A text: any scalar, as it is written. -/
def text (document : Document) (node : Node) : Decoding String := do
  match ← follow document node with
  | .scalar _ _ _ text => return String.ofList text
  | _ => failure

/-- A text or nothing, which is a plain null. A tag makes a plain scalar a text, unless it
is that of null. -/
def optionalText (document : Document) (node : Node) : Decoding (Option String) := do
  match ← follow document node with
  | .scalar _ tag .plain text =>
      let isNull := PlainValue.isNullWord text
      if tag = standardTag "null" then
        if isNull then return none else failure
      else if tag.isNone && (isNull || text.isEmpty) then return none
      else return some (String.ofList text)
  | .scalar _ _ _ text => return some (String.ofList text)
  | _ => failure

/-- A truth value: a plain scalar, or a literal one with its tag. -/
def boolean (document : Document) (node : Node) : Decoding Bool := do
  match ← follow document node with
  | .scalar _ _ .plain text => (PlainValue.boolean? text).getM
  | .scalar _ tag .literal text =>
      if tag = standardTag "bool" then (PlainValue.boolean? text).getM else failure
  | _ => failure

/-- An integer as a capture key: it is not negative and has at most 64 bits. -/
def indexKey (value : Int) : Decoding String :=
  if 0 ≤ value ∧ value.toNat < Nat.pow 2 64 then return toString value.toNat else failure

/-- A capture key: an integer in any base, or a text that stands for nothing else. -/
def captureKey (document : Document) (node : Node) : Decoding String := do
  match ← follow document node with
  | .scalar _ none .plain text =>
      match PlainValue.ofText text with
      | .integer value => indexKey value
      | .text => return String.ofList text
      | _ => failure
  | .scalar _ none _ text => return String.ofList text
  | .scalar _ (some tag) _ text =>
      if tag.head? = some '!' then failure
      else if some tag = standardTag "int" then indexKey (← (PlainValue.integer? text).getM)
      else if ["bool", "float", "null"].any fun name => some tag = standardTag name then failure
      else return String.ofList text
  | _ => failure

/-! ## Collections -/

/-- Whether a node is a list or a mapping that is left out. -/
def isNothing : Node → Bool
  | .scalar _ _ .plain text => text.isEmpty
  | _ => false

/-- Items of a list, where a number of levels are left. -/
def items (document : Document) (levels : Nat) (node : Node) : Decoding (List Node) := do
  match ← follow document node with
  | .sequence _ items => if levels = 0 then failure else return items
  | node => if isNothing node then return [] else failure

/-- Entries of a mapping, where a number of levels are left. -/
def entries (document : Document) (levels : Nat) (node : Node) :
    Decoding (List (Node × Node)) := do
  match ← follow document node with
  | .mapping _ entries => if levels = 0 then failure else return entries
  | node => if isNothing node then return [] else failure

/-- The fields of a mapping that have a known name. Each may occur once. -/
def fields (document : Document) (known : List String) (levels : Nat) (node : Node) :
    Decoding (List (String × Node)) := do
  let entries ← entries document levels node
  entries.foldlM (fun found (key, value) => do
    let name ← text document key
    if !known.contains name then return found
    else if (found.lookup name).isSome then failure
    else return (name, value) :: found) []

/-- A field of a mapping that may be missing. -/
def field (fields : List (String × Node)) (name : String) (default : α)
    (decode : Node → Decoding α) : Decoding α :=
  match fields.lookup name with
  | none => return default
  | some node => decode node

/-- Put an entry into a list in order of keys, in place of one with its key. -/
def insertEntry (key : String) (value : α) : List (String × α) → List (String × α)
  | [] => [(key, value)]
  | (other, old) :: entries =>
      if key = other then (key, value) :: entries
      else if key < other then (key, value) :: (other, old) :: entries
      else (other, old) :: insertEntry key value entries

/-- A mapping whose keys are not known beforehand, in order of its keys. Of entries with one
key the last one counts. -/
def keyed (document : Document) (levels : Nat) (key : Node → Decoding String)
    (value : Node → Decoding α) (node : Node) : Decoding (List (String × α)) := do
  let entries ← entries document levels node
  entries.foldlM (fun found entry => do
    let name ← key entry.1
    return insertEntry name (← value entry.2) found) []

/-! ## Artifacts -/

/-- Names of capture groups. -/
def captures (document : Document) (levels : Nat) : Node → Decoding CaptureNames :=
  keyed document levels (captureKey document) fun node => do
    let fields ← fields document ["name"] (levels - 1) node
    field fields "name" none (optionalText document)

/-- Names of the fields of a rule. -/
def ruleFields : List String :=
  ["name", "contentName", "match", "begin", "end", "captures", "beginCaptures",
    "endCaptures", "patterns", "include", "applyEndPatternLast"]

/-- A rule, where a number of levels are left. -/
def rule (document : Document) : Nat → Node → Decoding RuleSource
  | 0, node => do
      let _ ← entries document 0 node
      return {}
  | levels + 1, node => do
      let fields ← fields document ruleFields (levels + 1) node
      let text (name : String) : Decoding (Option String) :=
        field fields name none (optionalText document)
      let captures (name : String) : Decoding CaptureNames :=
        field fields name [] (captures document levels)
      let items ← field fields "patterns" [] (items document levels)
      let patterns ← match levels with
        | 0 => pure []
        | levels + 1 => items.mapM (rule document levels)
      return {
        name := ← text "name"
        contentName := ← text "contentName"
        matchPattern := ← text "match"
        beginPattern := ← text "begin"
        endPattern := ← text "end"
        captures := ← captures "captures"
        beginCaptures := ← captures "beginCaptures"
        endCaptures := ← captures "endCaptures"
        patterns
        includeTarget := ← text "include"
        applyEndPatternLast := ← field fields "applyEndPatternLast" false (boolean document) }

/-- Names of the fields of an artifact. -/
def artifactFields : List String := ["name", "scopeName", "fileTypes", "patterns", "repository"]

/-- An artifact. Its scope name may not be missing. -/
def artifact (document : Document) (node : Node) : Decoding Artifact := do
  let levels := maxDepth - 1
  let fields ← fields document artifactFields maxDepth node
  let name ← field fields "name" none (optionalText document)
  let scopeName ← text document (← (fields.lookup "scopeName").getM)
  let types ← field fields "fileTypes" [] (items document levels)
  let patterns ← field fields "patterns" [] (items document levels)
  return {
    name
    scopeName
    fileTypes := ← types.mapM (text document)
    patterns := ← patterns.mapM (rule document (levels - 1))
    repository := ← field fields "repository" []
      (keyed document levels (text document) (rule document (levels - 1))) }

end Decoding

/-- The artifact that a text holds in YAML. -/
def Artifact.ofText (text : Text) : Except GrammarError Artifact :=
  let read : Option Artifact := do
    let document ← Document.ofText? text
    (Decoding.artifact document document.root).run' (Decoding.aliasAllowance * document.extent)
  match read with
  | some artifact => .ok artifact
  | none => .error .malformed

/-- The grammar that a text holds as an artifact in YAML. -/
def Grammar.ofText (text : Text) : Except GrammarError Grammar := do
  Grammar.compile (← Artifact.ofText text)

end TokenConcord
