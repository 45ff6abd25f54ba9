import TokenConcord.Yaml.Scalar

/-!
# YAML tokens

A YAML text as a row of tokens. Blocks, which the text shows by indentation alone, have
tokens for their start and end. This module reads the tokens that are words of their own:
directives, tags and names.
-/

namespace TokenConcord.Yaml

/-- A token of a YAML text. -/
inductive Token where
  | version (major minor : Nat)
  /-- Declares what a tag handle stands for. -/
  | tagHandle (handle stem : Text)
  | documentStart | documentEnd
  | blockSequenceStart | blockMappingStart | blockEnd
  | flowSequenceStart | flowSequenceEnd
  | flowMappingStart | flowMappingEnd
  | entry | separator | key | value
  | reference (name : Text)
  | anchor (name : Text)
  | tag (handle suffix : Text)
  | scalar (style : Style) (text : Text)
  deriving DecidableEq, Repr

namespace Token

/-! ## Names -/

/-- Whether a name may end before what follows. -/
def nameMayEnd (input : Input) : Bool :=
  input.atGap || input.nextIs fun c =>
    c = '?' || c = ':' || c = ',' || c = ']' || c = '}' || c = '%' || c = '@' || c = '\x60'

/-- The name of an anchor. -/
def name? (input : Input) : Option (Text × Input) :=
  let name := input.takeText isNameChar
  let rest := input.dropText isNameChar
  if !name.isEmpty && nameMayEnd rest then some (name, rest) else none

/-! ## Tags -/

/-- Whether a character may stand in a tag, also inside angle brackets or there alone. -/
def isTagChar (enclosed : Bool) (c : Char) : Bool :=
  isNameChar c || ";/?:@&=+$.!~*'()".toList.contains c
    || (enclosed && (c = ',' || c = '[' || c = ']'))

/-- A byte written as a percent sign and two hexadecimal digits. -/
def octet? : Input → Option Nat
  | mark :: high :: low :: _ =>
      if mark.char = '%' then do
        return (← hexValue? high.char) * 16 + (← hexValue? low.char)
      else none
  | _ => none

/-- The rest of a character in UTF-8, written byte by byte. -/
def laterOctets? (value : Nat) : Nat → Input → Option Nat
  | 0, _ => some value
  | count + 1, input => do
      let octet ← octet? input
      if octet / 0x40 = 2 then laterOctets? (value * 0x40 + octet % 0x40) count (input.drop 3)
      else none

/-- A character written as the bytes of its UTF-8 form, and how many characters its written
form takes. -/
def escapedChar? (input : Input) : Option (Char × Nat) := do
  let octet ← octet? input
  let (lead, count) ←
    if octet < 0x80 then some (octet, 0)
    else if octet / 0x20 = 6 then some (octet % 0x20, 1)
    else if octet / 0x10 = 14 then some (octet % 0x10, 2)
    else if octet / 0x8 = 30 then some (octet % 0x8, 3)
    else none
  return (Char.ofNat (← laterOctets? lead count (input.drop 3)), 3 + 3 * count)

/-- The characters of a tag. -/
def tagText (enclosed : Bool) : Input → Option (Text × Input)
  | [] => some ([], [])
  | c :: rest =>
      if c.char = '%' then
        match escapedChar? (c :: rest) with
        | none => none
        | some (e, size) => (tagText enclosed (rest.drop (size - 1))).map (behind [e])
      else if isTagChar enclosed c.char then (tagText enclosed rest).map (behind [c.char])
      else some ([], c :: rest)
  termination_by input => input.length
  decreasing_by all_goals simp; try omega

/-- The characters of a tag, of which there is at least one. -/
def someTagText (enclosed : Bool) (input : Input) : Option (Text × Input) := do
  let (text, rest) ← tagText enclosed input
  if text.isEmpty then none else return (text, rest)

/-- A tag handle: exclamation marks around a name, the last one optional. -/
def handle? : Input → Option (Text × Input)
  | [] => none
  | c :: rest =>
      if c.char = '!' then
        let name := Input.takeText rest isNameChar
        let rest := Input.dropText rest isNameChar
        if rest.nextIs (· = '!') then some ('!' :: name ++ ['!'], rest.drop 1)
        else some ('!' :: name, rest)
      else none

/-- Whether a text is a handle of at least two marks. -/
def isLongHandle (handle : Text) : Bool :=
  2 ≤ handle.length && handle.getLast? = some '!'

/-- A tag, from its exclamation mark on: a handle and a suffix, a suffix alone under the
short handle, or a whole tag in angle brackets. -/
def tag? (inFlow : Bool) (input : Input) : Option (Token × Input) := do
  let (token, rest) ←
    if Input.nextIs (· = '<') (input.drop 1) then do
      let (suffix, rest) ← someTagText true (input.drop 2)
      if rest.nextIs (· = '>') then some (tag [] suffix, rest.drop 1) else none
    else do
      let (handle, rest) ← handle? input
      if isLongHandle handle then
        let (suffix, rest) ← someTagText false rest
        pure (tag handle suffix, rest)
      else
        let (more, rest) ← tagText false rest
        let suffix := handle.drop 1 ++ more
        pure (if suffix.isEmpty then tag [] ['!'] else tag ['!'] suffix, rest)
  if Input.atGap rest || (inFlow && Input.nextIs (· = ',') rest) then return (token, rest) else none

/-! ## Directives -/

/-- A number of at most nine digits. -/
def number? (input : Input) : Option (Nat × Input) :=
  let digits := input.takeText Char.isDigit
  if digits.isEmpty || 9 < digits.length then none
  else
    let value := digits.foldl (fun value c => value * 10 + (c.toNat - '0'.toNat)) 0
    some (value, input.dropText Char.isDigit)

/-- The version that a directive states. -/
def version? (input : Input) : Option (Token × Input) := do
  let (major, rest) ← number? (input.dropText isBlank)
  if rest.nextIs (· = '.') then
    let (minor, rest) ← number? (rest.drop 1)
    return (version major minor, rest)
  else none

/-- The handle that a directive declares. -/
def tagHandle? (input : Input) : Option (Token × Input) := do
  let (handle, rest) ← handle? (input.dropText isBlank)
  if (handle = ['!'] || isLongHandle handle) && rest.nextIs isBlank then
    let (stem, rest) ← someTagText true (rest.dropText isBlank)
    if rest.atGap then return (tagHandle handle stem, rest) else none
  else none

/-- A directive behind its percent sign, with the rest of the line. -/
def directive? (input : Input) : Option (Token × Input) := do
  let name := input.takeText isNameChar
  let rest := input.dropText isNameChar
  if rest.atGap then
    let (token, rest) ←
      if name = "YAML".toList then version? rest
      else if name = "TAG".toList then tagHandle? rest
      else none
    let rest := rest.dropText isBlank
    let rest := if rest.nextIs (· = '#') then rest.dropText (!isBreak ·) else rest
    if rest.atLineEnd then return (token, rest.drop 1) else none
  else none

end Token

end TokenConcord.Yaml
