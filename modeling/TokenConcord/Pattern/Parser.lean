import TokenConcord.Pattern.Choice
import TokenConcord.Pattern.Parser.Class

/-!
# Reading patterns

The text of a pattern is read in one pass. Alternatives are separated by bars, each is a
sequence of pieces, and a repetition applies to the piece before it. Flags set inside a
group hold up to the end of the group.
-/

namespace TokenConcord.Pattern

/-- A piece of a sequence. Flags set for the pieces behind them stand among the pieces, and
cannot be repeated. -/
inductive Piece where
  | part (part : Part)
  | flags

namespace Piece

/-- Pattern of the piece. -/
def pattern : Piece → Pattern
  | part p => p.pattern
  | flags => .empty

/-- Depth of the piece. -/
def depth : Piece → Nat
  | part p => p.depth
  | flags => 0

/-- The pieces of a sequence, the latest first, as one part. -/
def inSequence (pieces : List Piece) : Part :=
  let nesting := if pieces.length < 2 then 0 else 1
  ⟨Pattern.sequence (pieces.reverse.filterMap fun piece =>
      match piece with
      | part p => some p.pattern
      | flags => none),
    nesting + (pieces.map depth).foldl max 0⟩

end Piece

/-- Alternatives, the latest first, as one part. -/
def Part.inChoice (parts : List Part) : Part :=
  let nesting := if parts.length < 2 then 0 else 1
  ⟨Pattern.choose (parts.reverse.map (·.pattern)),
    nesting + (parts.map (·.depth)).foldl max 0⟩

namespace Reading

/-- Whether the text goes on with a condition on what stands before or behind. -/
def isLookAround (text : Text) : Bool :=
  ["?=", "?!", "?<=", "?<!"].any fun opening => opening.toList.isPrefixOf text

/-- Whether a character may stand in a group's name, at its start or later. -/
def isNameCharacter (atStart : Bool) (c : Char) : Bool :=
  c == '_' ||
    if atStart then Unicode.isAlphabetic c
    else c == '.' || c == '[' || c == ']' || Unicode.isAlphanumeric c

/-- The name of a group, through the bracket that closes it. -/
def groupName : Reading Unit := do
  let name := (← rest).takeWhile (· != '>')
  skip name.length
  if (← require .invalidGroupName) ≠ '>' ∨ name.isEmpty then throw .invalidGroupName
  if !(isNameCharacter true (name.headD '>') && name.tail.all (isNameCharacter false)) then
    throw .invalidGroupName
  skip 1
  if (← get).names.contains name then throw .repeatedGroupName
  modify fun reader => { reader with names := name :: reader.names }

/-- The number of the group that opens here. -/
def openGroup : Reading Nat := do
  let index := (← get).groups + 1
  modify fun reader => { reader with groups := index }
  return index

/-- Set or clear the flag with a letter. -/
def setFlag (value : Bool) (flags : Flags) : Char → Option Flags
  | 'i' => some { flags with caseless := value }
  | 'm' => some { flags with multiLine := value }
  | 's' => some { flags with dotAll := value }
  | 'U' => some { flags with lazyFirst := value }
  | 'R' => some { flags with returns := value }
  | 'x' => some { flags with verbose := value }
  | 'u' => some { flags with unicode := value }
  | _ => none

/-- Flag letters up to a colon or a parenthesis, which is left in place. Letters behind a
hyphen clear their flags, and no letter stands twice. -/
def flagLetters (flags : Flags) (seen : Text) : Nat → Reading (Flags × Text)
  | 0 => throw .invalidFlags
  | fuel + 1 => do
      let c ← require .invalidFlags
      if c = ':' ∨ c = ')' then
        if seen.head? = some '-' then throw .invalidFlags
        return (flags, seen)
      if seen.contains c then throw .invalidFlags
      skip 1
      if c = '-' then flagLetters flags (c :: seen) fuel
      else
        match setFlag (!seen.contains '-') flags c with
        | some flags => flagLetters flags (c :: seen) fuel
        | none => throw .invalidFlags

/-- What an opening parenthesis starts. -/
inductive Opening where
  /-- Flags for the rest of the enclosing group. -/
  | flags (flags : Flags)
  /-- A group, numbered or not, with the flags inside it. -/
  | group (index : Option Nat) (flags : Flags)

/-- The opening of a group, from its parenthesis on. -/
def opening : Reading Opening := do
  skip 1
  space
  let text ← rest
  let outer ← flags
  if isLookAround text then throw .lookAround
  if ['?', 'P', '<'].isPrefixOf text ∨ ['?', '<'].isPrefixOf text then
    let index ← openGroup
    skip (if text[1]? = some 'P' then 3 else 2)
    groupName
    return .group (some index) outer
  if text.head? = some '?' then
    skip 1
    let (inner, letters) ← flagLetters outer [] (text.length + 1)
    let close ← peek
    skip 1
    if close = some ')' then
      if letters.isEmpty then throw .nothingToRepeat
      return .flags inner
    return .group none inner
  return .group (some (← openGroup)) outer

/-- Pass over white space. -/
def blanks : Reading Unit :=
  modify fun reader => { reader with rest := reader.rest.dropWhile Unicode.isWhiteSpace }

/-- The digits of a number, with what may be ignored between them. -/
def digits (before : Text) : Nat → Reading Text
  | 0 => return before.reverse
  | fuel + 1 => do
      match ← peek with
      | some c =>
          if c.isDigit then
            skipSpaced
            digits (c :: before) fuel
          else return before.reverse
      | none => return before.reverse

/-- A number of repetitions, with white space around it. -/
def decimal : Reading (Option Nat) := do
  blanks
  let digits ← digits [] ((← rest).length)
  blanks
  space
  if digits.isEmpty then return none
  let value := digits.foldl (fun value c => value * 10 + (c.toNat - '0'.toNat)) 0
  if value < Nat.pow 2 32 then return some value else throw .invalidCount

/-- Bounds of a counted repetition, from the opening brace to before the closing one. -/
def counts : Reading (Nat × Option Nat) := do
  skipSpaced
  let _ ← require .unclosedCount
  let least ← decimal
  match least, ← require .unclosedCount with
  | none, _ => throw .invalidCount
  | some least, ',' =>
      skipSpaced
      if (← require .unclosedCount) = '\x7d' then return (least, none)
      match ← decimal with
      | none => throw .invalidCount
      | some most => if least ≤ most then return (least, some most) else throw .invalidCount
  | some least, _ => return (least, some least)

/-- Whether a repetition is greedy, from the question mark that may follow it. -/
def greediness : Reading Bool := do
  let lazyFirst := (← flags).lazyFirst
  if (← peek) = some '?' then
    skip 1
    return lazyFirst
  return !lazyFirst

/-- The bounds of a repetition, from its sign on. -/
def bounds (sign : Char) : Reading (Nat × Option Nat) := do
  match sign with
  | '*' => skip 1; return (0, none)
  | '+' => skip 1; return (1, none)
  | '?' => skip 1; return (0, some 1)
  | _ =>
      let (least, most) ← counts
      if (← require .unclosedCount) ≠ '\x7d' then throw .unclosedCount
      skipSpaced
      return (least, most)

/-- The part repeated between two bounds. One match is as good as several where none of them
consumes anything. -/
def repeatPart (part : Part) (least : Nat) (most : Option Nat) (greedy : Bool) : Part :=
  let (least, most) :=
    if part.pattern.consumes then (least, most)
    else (min least 1, some (min (most.getD 1) 1))
  ⟨part.pattern.repeated least most greedy, part.depth + 1⟩

/-- The part for a set of characters. -/
def setPart (s : CharSet) (depth : Nat) : Part := ⟨.set s, depth⟩

/-- The part for a condition. -/
def lookPart (assertion : Assertion) : Part := ⟨.look assertion, 0⟩

/-- The characters that a dot stands for. -/
def dot : Reading CharSet := do
  let flags ← flags
  if !flags.unicode then throw .beyondAscii
  let ends := if flags.dotAll then [] else if flags.returns then ['\n', '\r'] else ['\n']
  return (CharSet.unions (ends.map .single)).compl

/-- A character as the flags in force make it match. -/
def literal (c : Char) : Reading CharSet := do
  let flags ← flags
  if !flags.caseless then return .single c
  if flags.unicode then return .ofList (Unicode.caseVariants c.toNat)
  if c.toNat < 128 then return (CharSet.single c).caselessAscii
  return .single c

/-- A dot, an anchor, an escape or a plain character. -/
def primitive (c : Char) : Reading Part := do
  let flags ← flags
  match c with
  | '.' =>
      skip 1
      return setPart (← dot) 0
  | '^' =>
      skip 1
      return lookPart (if flags.multiLine then .lineStart flags.returns else .textStart)
  | '$' =>
      skip 1
      return lookPart (if flags.multiLine then .lineEnd flags.returns else .textEnd)
  | _ =>
      let primitive ← if c = '\\' then escape else skip 1 *> pure (.literal c)
      match primitive with
      | .literal c => return setPart (← literal c) 0
      | .set s => return setPart s 0
      | .look assertion => return lookPart assertion

/-- Alternatives up to the end of the text or to a closing parenthesis, which is left in
place. The alternatives before and the pieces of the present one are given, the latest
first. -/
def alternatives (before : List Part) (pieces : List Piece) : Nat → Reading Part
  | 0 => throw .tooDeep
  | fuel + 1 => do
      space
      match ← peek with
      | none | some ')' => return Part.inChoice (Piece.inSequence pieces :: before)
      | some '|' =>
          skip 1
          alternatives (Piece.inSequence pieces :: before) [] fuel
      | some '(' =>
          match ← opening with
          | .flags inner =>
              modify fun reader => { reader with flags := inner }
              alternatives before (.flags :: pieces) fuel
          | .group index? inner =>
              let outer ← flags
              modify fun reader => { reader with flags := inner }
              let body ← alternatives [] [] fuel
              let _ ← require .unclosedGroup
              skip 1
              modify fun reader => { reader with flags := outer }
              let pattern := match index? with
                | some index => Pattern.group index body.pattern
                | none => body.pattern
              let part := ⟨pattern, body.depth + 1⟩
              alternatives before (.part part :: pieces) fuel
      | some '[' =>
          let whole ← bracketed
          alternatives before (.part (setPart whole.set whole.depth) :: pieces) fuel
      | some c =>
          if c = '?' ∨ c = '*' ∨ c = '+' ∨ c = '\x7b' then
            match pieces with
            | .part part :: pieces =>
                let (least, most) ← bounds c
                let greedy ← greediness
                let part := repeatPart part least most greedy
                alternatives before (.part part :: pieces) fuel
            | _ => throw .nothingToRepeat
          else
            let part ← primitive c
            alternatives before (.part part :: pieces) fuel

/-- A whole pattern. -/
def whole : Reading Pattern := do
  let part ← alternatives [] [] ((← rest).length + 1)
  if (← peek).isSome then throw .unopenedGroup
  if part.depth > maxDepth then throw .tooDeep
  if part.pattern.weight > maxWeight then throw .tooLarge
  return part.pattern

end Reading

/-- The pattern written as a text. -/
def parse (text : Text) : Except ParseError Pattern :=
  Reading.whole.run' ⟨text, {}, 0, []⟩

end TokenConcord.Pattern
