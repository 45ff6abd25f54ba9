import TokenConcord.Text.Basic

/-!
# YAML source

The layout of a YAML text carries meaning, so its characters are read together with their
places. Line breaks come in many forms; all but the line and paragraph separators are read
as a line feed.
-/

namespace TokenConcord.Yaml

/-- A character and its place, with lines and columns counted from zero. -/
structure Placed where
  char : Char
  line : Nat
  column : Nat
  deriving DecidableEq, Repr

/-- Characters still to be read. -/
abbrev Input := List Placed

/-! ## Characters -/

/-- Whether a text may contain a character: controls other than the tab and line breaks are
ruled out. -/
def isAllowed (c : Char) : Bool :=
  c = '\t' || c = '\n' || c = '\r' || (' ' ≤ c && c ≤ '~') || c = '\x85'
    || ('\xa0' ≤ c && c ≤ '\ufffd') || 0x10000 ≤ c.toNat

/-- A space or a tab. -/
def isBlank (c : Char) : Bool := c = ' ' || c = '\t'

/-- A line break, where the forms of a line feed have become one. -/
def isBreak (c : Char) : Bool := c = '\n' || c = '\u2028' || c = '\u2029'

/-- A blank or a line break. -/
def isGap (c : Char) : Bool := isBlank c || isBreak c

/-- Characters of anchors, tag handles and directives. -/
def isNameChar (c : Char) : Bool := c.isAlphanum || c = '_' || c = '-'

/-- A mark that a text may start a line with and that means nothing. -/
def byteOrderMark : Char := '\ufeff'

/-! ## Places -/

/-- Give each character its place, from a line and a column on. -/
def placeFrom (line column : Nat) : Text → Input
  | [] => []
  | '\r' :: '\n' :: text => ⟨'\n', line, column⟩ :: placeFrom (line + 1) 0 text
  | c :: text =>
      if c = '\r' || c = '\n' || c = '\x85' then
        ⟨'\n', line, column⟩ :: placeFrom (line + 1) 0 text
      else if isBreak c then ⟨c, line, column⟩ :: placeFrom (line + 1) 0 text
      else ⟨c, line, column⟩ :: placeFrom line (column + 1) text

namespace Input

/-- The characters of a text with their places. A byte order mark in front is not counted. -/
def ofText (text : Text) : Input :=
  match text with
  | c :: rest => if c = byteOrderMark then placeFrom 0 0 rest else placeFrom 0 0 text
  | [] => []

/-- Whether the next character satisfies a test. -/
def nextIs (test : Char → Bool) : Input → Bool
  | [] => false
  | c :: _ => test c.char

/-- Whether nothing but white space or the end follows. -/
def atGap : Input → Bool
  | [] => true
  | c :: _ => isGap c.char

/-- Whether the current line holds nothing more. -/
def atLineEnd : Input → Bool
  | [] => true
  | c :: _ => isBreak c.char

/-- The next characters as long as they satisfy a test. -/
def takeText (input : Input) (test : Char → Bool) : Text :=
  (input.takeWhile fun c => test c.char).map (·.char)

/-- What remains behind the characters that satisfy a test. -/
def dropText (input : Input) (test : Char → Bool) : Input :=
  input.dropWhile fun c => test c.char

/-- Whether a line starts here with three marks of one kind and a gap behind them. -/
def atMark (mark : Char) : Input → Bool
  | ⟨a, _, 0⟩ :: ⟨b, _, _⟩ :: ⟨c, _, _⟩ :: rest =>
      a = mark && b = mark && c = mark && atGap rest
  | _ => false

/-- Whether a document starts or ends here. -/
def atDocumentMark (input : Input) : Bool := input.atMark '-' || input.atMark '.'

end Input

end TokenConcord.Yaml
