import TokenConcord.Yaml.Layout
import TokenConcord.Yaml.Node

/-!
# YAML documents

How a row of tokens makes up a tree. A text holds one document; anything behind it is a
fault. An alias stands for the node whose anchor last bore its name. Slots number the
anchors by how many names were known before, so an anchor that reuses a name and the next
one with a new name share a slot, and the latter fills it.
-/

namespace TokenConcord.Yaml

/-- Tokens still to be read, and the anchors found so far. -/
structure Composer where
  tokens : List Token
  /-- What tag handles stand for. -/
  handles : List (Text × Text)
  /-- Slots by the names of anchors. -/
  names : List (Text × Nat) := []
  /-- Anchors by the slots that they fill, the latest first. -/
  slots : List (Nat × Nat) := []

/-- A step that reads part of a document or finds it faulty. -/
abbrev Composing := StateT Composer Option

namespace Composing

/-- The next token, left in place. -/
def peek : Composing (Option Token) := do
  return (← get).tokens.head?

/-- Pass over a token. -/
def skip : Composing Unit :=
  modify fun composer => { composer with tokens := composer.tokens.drop 1 }

/-- Pass over the next token if it is the given one. -/
def accept (token : Token) : Composing Bool := do
  if (← peek) = some token then
    skip
    return true
  else return false

/-- Pass over the next token, which has to be the given one. -/
def expect (token : Token) : Composing Unit := do
  unless ← accept token do failure

/-! ## Anchors, aliases and tags -/

/-- Give a node a name. -/
def nameAnchor (name : Text) : Composing Nat := do
  let composer ← get
  let slot := composer.names.length
  let anchor := composer.slots.length
  set { composer with
    names := (name, slot) :: composer.names.filter (·.1 != name)
    slots := (slot, anchor) :: composer.slots }
  return anchor

/-- The slot of a name. -/
def slotOf (name : Text) : Composing Nat := do
  ((← get).names.lookup name).getM

/-- The anchor in front of a node. -/
def anchor : Composing (Option Nat) := do
  match ← peek with
  | some (.anchor name) =>
      skip
      return some (← nameAnchor name)
  | _ => return none

/-- The tag in front of a node. -/
def tag : Composing (Option Text) := do
  match ← peek with
  | some (.tag handle suffix) =>
      skip
      if handle.isEmpty then return some suffix
      else
        let stem ← ((← get).handles.lookup handle).getM
        return some (stem ++ suffix)
  | _ => return none

/-- Anchor and tag of a node, in either order. -/
def properties : Composing (Option Nat × Option Text) := do
  match ← anchor with
  | some anchor => return (some anchor, ← tag)
  | none =>
      let tag ← tag
      return (← if tag.isSome then anchor else pure none, tag)

/-! ## Nodes -/

/-- Whether the next token shows that a node in a block mapping is left out. -/
def atMappingMark : Composing Bool := do
  match ← peek with
  | some .key | some .value | some .blockEnd => return true
  | _ => return false

/-- Whether the next token shows that an entry of a block sequence is left out. -/
def atSequenceMark : Composing Bool := do
  match ← peek with
  | some .entry | some .blockEnd => return true
  | _ => return false

/-- Whether the next token shows that a node between brackets is left out. -/
def atFlowMark (close : Token) : Composing Bool := do
  let token ← peek
  return token = some .separator || token = some close

mutual

/-- A node: in a block or between brackets, and maybe a sequence that is not indented deeper
than its key. Each call reads a token before it comes back to this one, which bounds the
number of steps. -/
def node (inBlock undented : Bool) : Nat → Composing Node
  | 0 => failure
  | steps + 1 => do
      match ← peek with
      | some (.reference name) =>
          skip
          return .reference (← slotOf name)
      | _ =>
          let (anchor, tag) ← properties
          match ← peek with
          | some (.scalar style text) =>
              skip
              return .scalar anchor (if tag = some ['!'] then none else tag) style text
          | some .flowSequenceStart =>
              skip
              return .sequence anchor (← flowItems true steps)
          | some .flowMappingStart =>
              skip
              return .mapping anchor (← flowEntries true steps)
          | token =>
              if token = some .entry && undented then
                return .sequence anchor (← undentedItems steps)
              else if token = some .blockSequenceStart && inBlock then
                skip
                return .sequence anchor (← blockItems steps)
              else if token = some .blockMappingStart && inBlock then
                skip
                return .mapping anchor (← blockEntries steps)
              else if anchor.isSome || tag.isSome then return .scalar anchor tag .plain []
              else failure

/-- Entries of a block sequence. -/
def blockItems : Nat → Composing (List Node)
  | 0 => failure
  | steps + 1 => do
      if ← accept .entry then
        let item ← if ← atSequenceMark then pure .empty else node true false steps
        return item :: (← blockItems steps)
      else
        expect .blockEnd
        return []

/-- Entries of a block sequence that is not indented deeper than its key. -/
def undentedItems : Nat → Composing (List Node)
  | 0 => failure
  | steps + 1 => do
      if ← accept .entry then
        let isEmpty := (← atSequenceMark) || (← atMappingMark)
        let item ← if isEmpty then pure .empty else node true false steps
        return item :: (← undentedItems steps)
      else return []

/-- Entries of a block mapping. -/
def blockEntries : Nat → Composing (List (Node × Node))
  | 0 => failure
  | steps + 1 => do
      if ← accept .key then
        let key ← if ← atMappingMark then pure .empty else node true true steps
        let value ←
          if ← accept .value then
            if ← atMappingMark then pure .empty else node true true steps
          else pure .empty
        return (key, value) :: (← blockEntries steps)
      else
        expect .blockEnd
        return []

/-- Items between brackets. A key with its value makes a mapping of its own; where such a
key is left out, so is the token behind its mark. -/
def flowItems (first : Bool) : Nat → Composing (List Node)
  | 0 => failure
  | steps + 1 => do
      if ← accept .flowSequenceEnd then return []
      else
        unless first do expect .separator
        if ← accept .key then
          let isEmpty := (← atFlowMark .flowSequenceEnd) || (← peek) = some .value
          let key ←
            if isEmpty then
              skip
              pure .empty
            else node false false steps
          let value ←
            if ← accept .value then
              if ← atFlowMark .flowSequenceEnd then pure .empty else node false false steps
            else pure .empty
          return .mapping none [(key, value)] :: (← flowItems false steps)
        else if ← accept .flowSequenceEnd then return []
        else
          let item ← node false false steps
          return item :: (← flowItems false steps)

/-- Entries between braces. A key needs no value. -/
def flowEntries (first : Bool) : Nat → Composing (List (Node × Node))
  | 0 => failure
  | steps + 1 => do
      if ← accept .flowMappingEnd then return []
      else
        unless first do expect .separator
        if ← accept .key then
          let isEmpty := (← atFlowMark .flowMappingEnd) || (← peek) = some .value
          let key ← if isEmpty then pure .empty else node false false steps
          let value ←
            if ← accept .value then
              if ← atFlowMark .flowMappingEnd then pure .empty else node false false steps
            else pure .empty
          return (key, value) :: (← flowEntries false steps)
        else if ← accept .flowMappingEnd then return []
        else
          let key ← node false false steps
          return (key, .empty) :: (← flowEntries false steps)

end

/-! ## Documents -/

/-- Handles that every document may use. -/
def standardHandles : List (Text × Text) :=
  [(['!'], ['!']), (['!', '!'], "tag:yaml.org,2002:".toList)]

/-- Directives in front of a document: at most one version, which has to be a known one, and
handles that differ. -/
def directives (versioned : Bool) (handles : List (Text × Text)) :
    List Token → Option (List (Text × Text) × List Token)
  | .version major minor :: tokens =>
      if !versioned && major = 1 && (minor = 1 || minor = 2) then directives true handles tokens
      else none
  | .tagHandle handle stem :: tokens =>
      if (handles.lookup handle).isSome then none
      else directives versioned ((handle, stem) :: handles) tokens
  | tokens => some (handles, tokens)

end Composing

namespace Document

/-- The document that a row of tokens makes up. It may be marked as one, and has to be where
there are directives. -/
def ofTokens? (tokens : List Token) : Option Document := do
  let (handles, body) ← Composing.directives false [] tokens
  let body ← match body with
    | .documentStart :: body => some body
    | _ => if body.length = tokens.length then some body else none
  let (root, composer) ← (Composing.node true false (3 * body.length + 3)).run
    ⟨body, handles ++ Composing.standardHandles, [], []⟩
  if composer.tokens.all (· = .documentEnd) then return ⟨root, composer.slots⟩ else none

/-- The document that a text holds. -/
def ofText? (text : Text) : Option Document := do ofTokens? (← Token.scan? text)

end Document

end TokenConcord.Yaml
