import TokenConcord.Pattern.Basic
import TokenConcord.Pattern.Weight
import TokenConcord.Text.Basic
import TokenConcord.Unicode.Property

/-!
# Reading patterns: the state of a reader

A reader works through the text of a pattern from left to right. It keeps the text still to
be read, the flags in force, and the groups opened so far. In verbose mode white space and
comments between the parts of a pattern are passed over.
-/

namespace TokenConcord.Pattern

/-- Why a text is no pattern. -/
inductive ParseError where
  | unexpectedEnd
  | unclosedGroup | unopenedGroup
  | unclosedClass
  | unclosedCount | invalidCount
  | nothingToRepeat
  | lookAround | backReference
  | unknownEscape | invalidEscape
  | invalidRange
  | invalidFlags
  | invalidGroupName | repeatedGroupName
  | unknownProperty
  | beyondAscii
  | tooDeep | tooLarge
  deriving DecidableEq, Repr

/-- Flags that change how a pattern is read. -/
structure Flags where
  /-- Letters match in either case. -/
  caseless : Bool := false
  /-- Line anchors hold at every line of the text. -/
  multiLine : Bool := false
  /-- The dot matches a line feed too. -/
  dotAll : Bool := false
  /-- Plain repetition is lazy and marked repetition greedy. -/
  lazyFirst : Bool := false
  /-- A carriage return ends a line too, alone or before a line feed. -/
  returns : Bool := false
  /-- White space and comments are passed over. -/
  verbose : Bool := false
  /-- Classes and conditions know all characters, and not only those of ASCII. -/
  unicode : Bool := true
  deriving DecidableEq, Repr

/-- State of a reader. -/
structure Reader where
  rest : Text
  flags : Flags
  /-- Number of numbered groups opened so far. -/
  groups : Nat
  names : List Text

/-- A step that reads part of a pattern or finds it faulty. -/
abbrev Reading := StateT Reader (Except ParseError)

namespace Reading

/-- The text without leading white space and comments, from inside a comment or not. -/
def skipIgnored (inComment : Bool) : Text → Text
  | [] => []
  | c :: text =>
      if inComment then skipIgnored (c != '\n') text
      else if Unicode.isWhiteSpace c then skipIgnored false text
      else if c = '#' then skipIgnored true text
      else c :: text

/-- The next character, left in place. -/
def peek : Reading (Option Char) := do
  return (← get).rest.head?

/-- The text still to be read. -/
def rest : Reading Text := do
  return (← get).rest

/-- The flags in force. -/
def flags : Reading Flags := do
  return (← get).flags

/-- Pass over a number of characters. -/
def skip (count : Nat) : Reading Unit :=
  modify fun reader => { reader with rest := reader.rest.drop count }

/-- In verbose mode, pass over white space and comments. -/
def space : Reading Unit :=
  modify fun reader =>
    if reader.flags.verbose then { reader with rest := skipIgnored false reader.rest }
    else reader

/-- Pass over one character and what may be ignored behind it. -/
def skipSpaced : Reading Unit := do
  skip 1
  space

/-- The next character, which has to be there. -/
def require (error : ParseError) : Reading Char := do
  match ← peek with
  | some c => return c
  | none => throw error

/-- The set as the flags in force make it match. -/
def underFlags (s : CharSet) : Reading CharSet := do
  let flags ← flags
  return if !flags.caseless then s else if flags.unicode then s.caseless else s.caselessAscii

/-- The set, under the flags in force, or the characters outside it. Without all characters
at hand, nothing beyond ASCII may match. -/
def underFlagsNegated (negated : Bool) (s : CharSet) : Reading CharSet := do
  let s ← underFlags s
  let s := if negated then s.compl else s
  if !(← flags).unicode ∧ !s.isAscii then throw .beyondAscii
  return s

end Reading

/-- Part of a pattern with the depth to which it is nested. -/
structure Part where
  pattern : Pattern
  depth : Nat

/-- Deepest nesting a pattern may have. -/
def maxDepth : Nat := 250

end TokenConcord.Pattern
