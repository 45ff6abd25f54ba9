import TokenConcord.Pattern.Parser.State
import TokenConcord.Pattern.Property

/-!
# Reading patterns: escapes

A backslash takes the special meaning from the character behind it, or gives it one: a code
point, a class of characters, or a condition on the position.
-/

namespace TokenConcord.Pattern

/-- What a single character or an escape stands for. -/
inductive Primitive where
  | literal (c : Char)
  | set (s : CharSet)
  | look (assertion : Assertion)

namespace Reading

/-- Characters with a special meaning somewhere in a pattern. -/
def isMeta (c : Char) : Bool :=
  "\\.+*?()|[]\x7b\x7d^$#&-~".toList.contains c

/-- Characters that a backslash leaves as they are. -/
def isEscapable (c : Char) : Bool :=
  isMeta c || (c.toNat < 128 && !c.isAlphanum && c != '<' && c != '>')

/-- Value of a hexadecimal digit. -/
def hexValue? (c : Char) : Option Nat :=
  if c.isDigit then some (c.toNat - '0'.toNat)
  else if 'a' ≤ c ∧ c ≤ 'f' then some (c.toNat - 'a'.toNat + 10)
  else if 'A' ≤ c ∧ c ≤ 'F' then some (c.toNat - 'A'.toNat + 10)
  else none

/-- The character with a code point. -/
def charOf (n : Nat) : Reading Primitive :=
  if n.isValidChar then return .literal (Char.ofNat n) else throw .invalidEscape

/-- A given number of hexadecimal digits. -/
def fixedHex (value : Nat) : Nat → Reading Nat
  | 0 => return value
  | count + 1 => do
      match hexValue? (← require .unexpectedEnd) with
      | some digit =>
          skipSpaced
          fixedHex (value * 16 + digit) count
      | none => throw .invalidEscape

/-- Hexadecimal digits up to a closing brace, behind `digits` others of the given value. -/
def bracedHex (value digits : Nat) : Nat → Reading Nat
  | 0 => throw .unexpectedEnd
  | fuel + 1 => do
      let c ← require .unexpectedEnd
      if c = '\x7d' then
        skipSpaced
        if digits = 0 then throw .invalidEscape
        return value
      match hexValue? c with
      | some digit =>
          skipSpaced
          bracedHex (value * 16 + digit) (digits + 1) fuel
      | none => throw .invalidEscape

/-- A code point in hexadecimal: so many digits, or any number of them in braces. Two digits
stand for a byte, which without all characters at hand has to be an ASCII character. -/
def hex (digits : Nat) : Reading Primitive := do
  skipSpaced
  if (← require .unexpectedEnd) = '\x7b' then
    skipSpaced
    charOf (← bracedHex 0 0 ((← rest).length + 1))
  else
    let value ← fixedHex 0 digits
    if digits = 2 ∧ 128 ≤ value ∧ !(← flags).unicode then throw .beyondAscii
    charOf value

/-- The text up to a closing brace, which is passed over. -/
def bracedName (name : Text) : Nat → Reading Text
  | 0 => throw .unexpectedEnd
  | fuel + 1 => do
      let c ← require .unexpectedEnd
      if c = '\x7d' then
        skip 1
        return name.reverse
      skipSpaced
      bracedName (c :: name) fuel

/-- A text cut at the first place where `separator` stands. -/
def cutAt? (separator : Text) : Text → Option (Text × Text)
  | [] => none
  | c :: text =>
      if separator.isPrefixOf (c :: text) then
        some ([], (c :: text).drop separator.length)
      else (cutAt? separator text).map fun (before, after) => (c :: before, after)

/-- The class a property expression names, and whether its complement is meant. -/
def namedClass? (name : Text) : Option (CharSet × Bool) :=
  match cutAt? ['!', '='] name with
  | some (property, value) => (propertyValue? property value).map (·, true)
  | none =>
      match (cutAt? [':'] name).orElse fun _ => cutAt? ['='] name with
      | some (property, value) => (propertyValue? property value).map (·, false)
      | none => (property? name).map (·, false)

/-- A class by the name of a property: one letter, or a name in braces. -/
def property (negated : Bool) : Reading Primitive := do
  if !(← flags).unicode then throw .beyondAscii
  skipSpaced
  let c ← require .unexpectedEnd
  let name ←
    if c = '\x7b' then
      skipSpaced
      bracedName [] ((← rest).length + 1)
    else if c = '\\' then throw .invalidEscape
    else
      skipSpaced
      pure [c]
  match namedClass? name with
  | some (s, complement) => return .set (← underFlagsNegated (negated != complement) s)
  | none => throw .unknownProperty

/-- A class with a letter of its own, or its complement, among all characters or among those
of ASCII. -/
def classEscape (unicode : Bool) (c : Char) : Option CharSet :=
  let choose (all : CharSet) (ascii : String) : Option CharSet :=
    if unicode then some all else lookUp asciiClasses ascii
  match c with
  | 'd' => choose digitClass "digit"
  | 'D' => (choose digitClass "digit").map (·.compl)
  | 's' => choose spaceClass "space"
  | 'S' => (choose spaceClass "space").map (·.compl)
  | 'w' => choose wordClass "word"
  | 'W' => (choose wordClass "word").map (·.compl)
  | _ => none

/-- Controls with a letter of their own. -/
def controlEscape (c : Char) : Option Char :=
  match c with
  | 'a' => some '\x07'
  | 'f' => some '\x0c'
  | 't' => some '\t'
  | 'n' => some '\n'
  | 'r' => some '\r'
  | 'v' => some '\x0b'
  | _ => none

/-- Conditions with a letter of their own, where words are made of the given characters. -/
def assertionEscape (word : CharSet) (c : Char) : Option Assertion :=
  match c with
  | 'A' => some .textStart
  | 'z' => some .textEnd
  | 'b' => some (.wordBoundary word)
  | 'B' => some (.notWordBoundary word)
  | '<' => some (.wordStart word)
  | '>' => some (.wordEnd word)
  | _ => none

/-- Letters of the name of a word boundary. -/
def isBoundaryLetter (c : Char) : Bool := c.isAlpha || c == '-'

/-- Letters of a name, with what may be ignored between them. -/
def boundaryName (name : Text) : Nat → Reading Text
  | 0 => return name.reverse
  | fuel + 1 => do
      match ← peek with
      | some c =>
          if isBoundaryLetter c then
            skipSpaced
            boundaryName (c :: name) fuel
          else return name.reverse
      | none => return name.reverse

/-- The kind of word boundary named in braces behind `\b`. Braces that hold no name are left
for a count of repetitions. -/
def namedBoundary (word : CharSet) : Reading Assertion := do
  if (← peek) ≠ some '\x7b' then return .wordBoundary word
  let start ← get
  skipSpaced
  let c ← require .unexpectedEnd
  if !isBoundaryLetter c then
    modify fun _ => start
    return .wordBoundary word
  let name ← boundaryName [] ((← rest).length)
  if (← peek) ≠ some '\x7d' then throw .invalidEscape
  skip 1
  match String.ofList name with
  | "start" => return .wordStart word
  | "end" => return .wordEnd word
  | "start-half" => return .wordStartHalf word
  | "end-half" => return .wordEndHalf word
  | _ => throw .unknownEscape

/-- An escape, from its backslash on. -/
def escape : Reading Primitive := do
  skip 1
  let c ← require .unexpectedEnd
  if c.isDigit then throw .backReference
  else if c = 'x' then hex 2
  else if c = 'u' then hex 4
  else if c = 'U' then hex 8
  else if c = 'p' then property false
  else if c = 'P' then property true
  else
    skip 1
    let unicode := (← flags).unicode
    let word := if unicode then wordClass else (lookUp asciiClasses "word").getD .none
    match classEscape unicode c, controlEscape c, assertionEscape word c with
    | some s, _, _ =>
        if !unicode ∧ !s.isAscii then throw .beyondAscii
        return .set s
    | _, some control, _ => return .literal control
    | _, _, some (.wordBoundary word) => return .look (← namedBoundary word)
    | _, _, some assertion => return .look assertion
    | none, none, none =>
        if isEscapable c then return .literal c else throw .unknownEscape

end Reading

end TokenConcord.Pattern
