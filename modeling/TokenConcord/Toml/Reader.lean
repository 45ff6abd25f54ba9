import TokenConcord.Text.Basic

/-!
# Reading TOML: the parts of a line

White space, comments, and the texts in quotes that serve as keys and values. A text is read
from left to right; a step that fails leaves it as it was.
-/

namespace TokenConcord.Toml

/-- A step that reads the beginning of a text or fails. -/
abbrev Reading := StateT Text Option

namespace Reading

/-- The text still to be read. -/
def rest : Reading Text := get

/-- Whether the next character satisfies a test. -/
def nextIs (test : Char → Bool) : Reading Bool := do
  return (← rest).head?.any test

/-- Pass over the next character if it is one of those given. -/
def acceptAny (choices : String) : Reading Bool := do
  match ← rest with
  | c :: text => if choices.toList.contains c then do set text; return true else return false
  | [] => return false

/-- Pass over the next character if it is the given one. -/
def accept (c : Char) : Reading Bool := acceptAny c.toString

/-- Pass over the next character, which has to be the given one. -/
def expect (c : Char) : Reading Unit := do
  unless ← accept c do failure

/-- Pass over a given text. -/
def word (w : String) : Reading Unit := w.toList.forM expect

/-- The next characters as long as they satisfy a test. -/
def takeText (test : Char → Bool) : Reading Text := do
  let text ← rest
  set (text.dropWhile test)
  return text.takeWhile test

/-- Read a part that a function splits off. -/
def split (read : Text → Option (α × Text)) : Reading α := do
  let (value, text) ← (read (← rest)).getM
  set text
  return value

/-! ## White space -/

/-- Spaces and tabs. -/
def isBlank (c : Char) : Bool := c = ' ' || c = '\t'

/-- Pass over blanks. -/
def blanks : Reading Unit := do
  let _ ← takeText isBlank

/-- A character that may stand in a comment or between quotes: not a control, except for the
tab. -/
def isVisible (c : Char) : Bool := c = '\t' || (' ' ≤ c && c != '\x7f')

/-- Pass over a comment, if there is one. -/
def comment : Reading Unit := do
  if ← nextIs (· = '#') then
    let _ ← takeText isVisible

/-- A line break, and the text behind it. -/
def lineBreak? : Text → Option Text
  | '\n' :: text => some text
  | '\r' :: '\n' :: text => some text
  | _ => none

/-- Pass over a line break. -/
def lineBreak : Reading Unit := do
  set (← (lineBreak? (← rest)).getM)

/-- Pass over what may stand behind a key and its value, to the end of the line. -/
def lineEnd : Reading Unit := do
  blanks
  comment
  unless (← rest).isEmpty do lineBreak

/-- The text behind blanks, line breaks and comments, from inside a comment or not. -/
def skipSpace (inComment : Bool) : Text → Text
  | [] => []
  | '\r' :: '\n' :: text => skipSpace false text
  | c :: text =>
      if c = '\n' then skipSpace false text
      else if inComment then
        if isVisible c then skipSpace true text else c :: text
      else if isBlank c then skipSpace false text
      else if c = '#' then skipSpace true text
      else c :: text

/-- Pass over blanks, line breaks and comments. -/
def space : Reading Unit :=
  modify (skipSpace false)

/-! ## Texts in quotes -/

/-- Value of a number of hexadecimal digits. -/
def hex? (count : Nat) (text : Text) : Option Nat :=
  let digits := text.take count
  if digits.length = count && digits.all fun c =>
      c.isDigit || ('a' ≤ c && c ≤ 'f') || ('A' ≤ c && c ≤ 'F') then
    some (digits.foldl (fun n c =>
      n * 16 + (if c.isDigit then c.toNat - '0'.toNat else c.toLower.toNat - 'a'.toNat + 10)) 0)
  else none

/-- The character that an escape stands for, and how many characters behind the backslash
make up the escape. -/
def escape? : Text → Option (Char × Nat)
  | [] => none
  | c :: text =>
      let coded (count : Nat) : Option (Char × Nat) := do
        let n ← hex? count text
        if n.isValidChar then return (Char.ofNat n, count + 1) else none
      match c with
      | 'b' => some ('\x08', 1)
      | 't' => some ('\t', 1)
      | 'n' => some ('\n', 1)
      | 'f' => some ('\x0c', 1)
      | 'r' => some ('\r', 1)
      | '"' => some ('"', 1)
      | '\\' => some ('\\', 1)
      | 'u' => coded 4
      | 'U' => coded 8
      | _ => none

/-- Put text in front of what was read. -/
def behind (before : Text) (found : Text × Text) : Text × Text := (before ++ found.1, found.2)

/-- The rest of a text between single marks. Escapes count where the marks are double
quotes. -/
def quoted (mark : Char) : Text → Option (Text × Text)
  | [] => none
  | c :: text =>
      if c = mark then some ([], text)
      else if c = '\\' && mark = '"' then
        match escape? text with
        | none => none
        | some (e, size) => (quoted mark (text.drop size)).map (behind [e])
      else if isVisible c then (quoted mark text).map (behind [c])
      else none
  termination_by text => text.length
  decreasing_by all_goals simp; try omega

/-- The text behind blanks and line breaks. -/
def skipBlankLines : Text → Text
  | [] => []
  | '\r' :: '\n' :: text => skipBlankLines text
  | c :: text => if c = '\n' || isBlank c then skipBlankLines text else c :: text

/-- The text behind an escaped line break and the white space around it, unless there is no
line break. -/
def joined? (text : Text) : Option Text :=
  (lineBreak? (text.dropWhile isBlank)).map skipBlankLines

/-- The rest of a text between triple marks, which may run over several lines. Up to two
marks may stand in front of the closing ones. -/
def tripleQuoted (mark : Char) : Nat → Text → Option (Text × Text)
  | 0, _ => none
  | _, [] => none
  | steps + 1, c :: text =>
      if c = mark then
        let count := ((c :: text).takeWhile (· = mark)).length
        let rest := (c :: text).drop count
        if count < 3 then
          (tripleQuoted mark steps rest).map (behind (List.replicate count mark))
        else if count < 6 then some (List.replicate (count - 3) mark, rest)
        else none
      else
        match lineBreak? (c :: text) with
        | some rest => (tripleQuoted mark steps rest).map (behind ['\n'])
        | none =>
            if c = '\\' && mark = '"' then
              match joined? text with
              | some rest => tripleQuoted mark steps rest
              | none => do
                  let (e, size) ← escape? text
                  return behind [e] (← tripleQuoted mark steps (text.drop size))
            else if isVisible c then (tripleQuoted mark steps text).map (behind [c])
            else none

/-- A text between double or single quotes. -/
def lineText : Reading Text := do
  if ← accept '"' then split (quoted '"')
  else
    expect '\''
    split (quoted '\'')

/-- A text between triple quotes. A line break right behind them is left out. -/
def blockText (mark : Char) : Reading Text := do
  word (String.ofList [mark, mark, mark])
  modify fun text => (lineBreak? text).getD text
  let size := (← rest).length
  split (tripleQuoted mark (size + 1))

/-- A text value. -/
def text : Reading Text := blockText '"' <|> blockText '\'' <|> lineText

/-! ## Keys -/

/-- Characters of keys without quotes. -/
def isBare (c : Char) : Bool := c.isAlphanum || c = '_' || c = '-'

/-- One part of a key. -/
def keyPart : Reading Text := do
  if ← nextIs fun c => c = '"' || c = '\'' then lineText
  else
    let part ← takeText isBare
    if part.isEmpty then failure else return part

/-- The later parts of a key, each behind a dot. -/
def keyParts : Nat → Reading (List Text)
  | 0 => failure
  | steps + 1 => do
      blanks
      if ← accept '.' then
        blanks
        let part ← keyPart
        return part :: (← keyParts steps)
      else return []

/-- Most parts of a key. -/
def maxKeyParts : Nat := 79

/-- A key: its leading parts and the last one, with the blanks around them. -/
def key : Reading (List Text × Text) := do
  blanks
  let first ← keyPart
  let parts := first :: (← keyParts ((← rest).length + 1))
  if parts.length ≤ maxKeyParts then
    return (parts.dropLast, parts.getLastD first)
  else failure

end Reading

end TokenConcord.Toml
