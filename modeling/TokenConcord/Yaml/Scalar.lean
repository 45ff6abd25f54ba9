import TokenConcord.Yaml.Source

/-!
# YAML scalars

The five ways to write a text. In the flow styles, plain and quoted, white space around line
breaks is folded: one break is a space, and of several the first is dropped. The block
styles keep the lines below their header that are indented deep enough.
-/

namespace TokenConcord.Yaml

/-- How a scalar is written. -/
inductive Style where
  | plain | singleQuoted | doubleQuoted | literal | folded
  deriving DecidableEq, Repr

/-! ## Folding -/

/-- White space inside a flow scalar up to the current character. -/
inductive Gap where
  | blanks (text : Text)
  /-- White space with line breaks. The first one is missing where it was escaped. -/
  | breaks (first : Option Char) (later : Text)
  deriving DecidableEq, Repr

namespace Gap

/-- No white space. -/
def empty : Gap := .blanks []

/-- More white space. Blanks around line breaks do not count. -/
def add (gap : Gap) (c : Char) : Gap :=
  match gap with
  | .blanks text => if isBreak c then .breaks (some c) [] else .blanks (text ++ [c])
  | .breaks first later => if isBreak c then .breaks first (later ++ [c]) else gap

/-- Whether there is no white space. -/
def isEmpty : Gap → Bool
  | .blanks text => text.isEmpty
  | .breaks .. => false

/-- Whether the white space runs over a line break. -/
def isBroken : Gap → Bool
  | .blanks _ => false
  | .breaks .. => true

/-- What the white space stands for. -/
def text : Gap → Text
  | .blanks text => text
  | .breaks (some '\n') [] => [' ']
  | .breaks (some '\n') later => later
  | .breaks first later => first.toList ++ later

end Gap

/-- What a reader of a scalar found, behind more text. -/
def behind (before : Text) (found : Text × Input) : Text × Input :=
  (before ++ found.1, found.2)

/-! ## Quoted scalars -/

/-- The rest of a single-quoted scalar and what follows it. A doubled quote stands for one. -/
def singleQuoted (gap : Gap) : Input → Option (Text × Input)
  | [] => none
  | c :: rest =>
      if Input.atDocumentMark (c :: rest) then none
      else if isGap c.char then singleQuoted (gap.add c.char) rest
      else if c.char = '\'' then
        match rest with
        | [] => some (gap.text, [])
        | d :: more =>
            if d.char = '\'' then
              (singleQuoted .empty more).map (behind (gap.text ++ ['\'']))
            else some (gap.text, d :: more)
      else (singleQuoted .empty rest).map (behind (gap.text ++ [c.char]))

/-- Value of a hexadecimal digit. -/
def hexValue? (c : Char) : Option Nat :=
  if c.isDigit then some (c.toNat - '0'.toNat)
  else if 'a' ≤ c && c ≤ 'f' then some (c.toNat - 'a'.toNat + 10)
  else if 'A' ≤ c && c ≤ 'F' then some (c.toNat - 'A'.toNat + 10)
  else none

/-- Value of as many hexadecimal digits as asked for. -/
def hexNumber? (value : Nat) : Nat → Input → Option Nat
  | 0, _ => some value
  | _ + 1, [] => none
  | count + 1, c :: rest => do
      hexNumber? (value * 16 + (← hexValue? c.char)) count rest

/-- The character with a number, unless it is no character. -/
def codePoint? (n : Nat) : Option Char :=
  if n.isValidChar then some (Char.ofNat n) else none

/-- The character that an escape stands for, and how many characters behind the backslash
make up the escape. -/
def escape? : Input → Option (Char × Nat)
  | [] => none
  | c :: rest =>
      let coded (count : Nat) : Option (Char × Nat) := do
        return (← codePoint? (← hexNumber? 0 count rest), count + 1)
      match c.char with
      | '0' => some ('\x00', 1)
      | 'a' => some ('\x07', 1)
      | 'b' => some ('\x08', 1)
      | 't' | '\t' => some ('\t', 1)
      | 'n' => some ('\n', 1)
      | 'v' => some ('\x0b', 1)
      | 'f' => some ('\x0c', 1)
      | 'r' => some ('\r', 1)
      | 'e' => some ('\x1b', 1)
      | ' ' => some (' ', 1)
      | '"' => some ('"', 1)
      | '/' => some ('/', 1)
      | '\\' => some ('\\', 1)
      | 'N' => some ('\x85', 1)
      | '_' => some ('\xa0', 1)
      | 'L' => some ('\u2028', 1)
      | 'P' => some ('\u2029', 1)
      | 'x' => coded 2
      | 'u' => coded 4
      | 'U' => coded 8
      | _ => none

/-- The rest of a double-quoted scalar and what follows it. An escaped line break joins two
lines without a space. -/
def doubleQuoted (gap : Gap) : Input → Option (Text × Input)
  | [] => none
  | c :: rest =>
      if Input.atDocumentMark (c :: rest) then none
      else if isGap c.char then doubleQuoted (gap.add c.char) rest
      else if c.char = '"' then some (gap.text, rest)
      else if c.char = '\\' then
        if Input.nextIs isBreak rest then
          (doubleQuoted (.breaks none []) (rest.drop 1)).map (behind gap.text)
        else
          match escape? rest with
          | none => none
          | some (e, size) =>
              (doubleQuoted .empty (rest.drop size)).map (behind (gap.text ++ [e]))
      else (doubleQuoted .empty rest).map (behind (gap.text ++ [c.char]))
  termination_by input => input.length
  decreasing_by all_goals simp only [List.length_drop, List.length_cons]; omega

/-! ## Plain scalars -/

/-- Characters that end a plain scalar between brackets. -/
def isFlowMark (c : Char) : Bool :=
  c = ',' || c = '[' || c = ']' || c = '{' || c = '}'

/-- What ended a plain scalar. -/
structure PlainEnd where
  /-- Whether a line break lies between the scalar and what follows it. -/
  broken : Bool
  rest : Input

/-- The rest of a plain scalar and what follows it. Outside brackets the scalar goes on on
later lines only where they are indented to the given column. -/
def plain (inFlow : Bool) (indent : Nat) (gap : Gap) : Input → Option (Text × PlainEnd)
  | [] => some ([], ⟨gap.isBroken, []⟩)
  | c :: rest =>
      if isGap c.char then
        if gap.isBroken && c.column < indent && c.char = '\t' then none
        else plain inFlow indent (gap.add c.char) rest
      else if !gap.isEmpty &&
          ((!inFlow && c.column < indent) || Input.atDocumentMark (c :: rest) || c.char = '#')
        then some ([], ⟨gap.isBroken, c :: rest⟩)
      else if inFlow && c.char = ':' && Input.nextIs (fun d => isFlowMark d || d = '?') rest then none
      else if (c.char = ':' && Input.atGap rest) || (inFlow && isFlowMark c.char) then
        some ([], ⟨gap.isBroken, c :: rest⟩)
      else
        (plain inFlow indent .empty rest).map fun (value, stop) =>
          (gap.text ++ c.char :: value, stop)

/-! ## Block scalars -/

/-- What becomes of the line breaks at the end of a block scalar. -/
inductive Chomping where
  | strip
  /-- One of them is kept. -/
  | clip
  | keep
  deriving DecidableEq, Repr

/-- The indicators in the header of a block scalar, in either order. -/
structure BlockHeader where
  chomping : Chomping := .clip
  /-- Indentation relative to what surrounds the scalar, where it is stated. -/
  increment : Option Nat := none
  deriving DecidableEq, Repr

namespace BlockHeader

/-- Read a chomping indicator. -/
def chomp (header : BlockHeader) : Input → BlockHeader × Input
  | [] => (header, [])
  | c :: rest =>
      if c.char = '+' then (⟨.keep, header.increment⟩, rest)
      else if c.char = '-' then (⟨.strip, header.increment⟩, rest)
      else (header, c :: rest)

/-- Read an indentation indicator, which is not zero. -/
def indent? (header : BlockHeader) : Input → Option (BlockHeader × Input)
  | [] => some (header, [])
  | c :: rest =>
      if c.char = '0' then none
      else if c.char.isDigit then
        some (⟨header.chomping, some (c.char.toNat - '0'.toNat)⟩, rest)
      else some (header, c :: rest)

/-- Read the indicators and the rest of the line, which may hold a comment. -/
def read? (input : Input) : Option (BlockHeader × Input) := do
  let (header, rest) ←
    if input.nextIs fun c => c = '+' || c = '-' then
      let (header, rest) := chomp {} input
      header.indent? rest
    else do
      let (header, rest) ← indent? {} input
      pure (if header.increment.isSome then header.chomp rest else (header, rest))
  let rest := rest.dropText isBlank
  let rest := if rest.nextIs (· = '#') then rest.dropText (!isBreak ·) else rest
  if rest.atLineEnd then return (header, rest.drop 1) else none

end BlockHeader

/-- Pass over the indentation of the next line and the empty lines before it. An indentation
that is not known yet takes all spaces. Also gives the line breaks passed over and the
largest column reached. -/
def blockGap (indent : Option Nat) : Input → Option (Text × Nat × Input)
  | [] => some ([], 0, [])
  | c :: rest =>
      let inside := indent.all (c.column < ·)
      if inside && c.char = ' ' then blockGap indent rest
      else if inside && c.char = '\t' then none
      else if isBreak c.char then do
        let (breaks, column, rest) ← blockGap indent rest
        return (c.char :: breaks, max c.column column, rest)
      else some ([], c.column, c :: rest)

/-- The content of a block scalar so far. -/
structure BlockText where
  text : Text
  /-- The line break behind the last line. -/
  lineEnd : Text
  /-- Line breaks of the empty lines behind that. -/
  emptyLines : Text
  /-- Whether the last line starts with a blank. -/
  startsBlank : Bool

namespace BlockText

/-- Add a line. Folding turns the break between two lines that start with text into a space,
or drops it before empty lines. -/
def addLine (content : BlockText) (folds : Bool) (line : Text) : Text :=
  let startsBlank := line.head?.any isBlank
  let lineEnd :=
    if folds && content.lineEnd = ['\n'] && !content.startsBlank && !startsBlank then
      if content.emptyLines.isEmpty then [' '] else []
    else content.lineEnd
  content.text ++ lineEnd ++ content.emptyLines ++ line

/-- The value of the scalar. -/
def chomped (content : BlockText) : Chomping → Text
  | .strip => content.text
  | .clip => content.text ++ content.lineEnd
  | .keep => content.text ++ content.lineEnd ++ content.emptyLines

end BlockText

/-- Add the lines that stand at an indentation, of which there are at most as many as
characters. -/
def blockLines (folds : Bool) (indent : Nat) :
    Nat → BlockText → Input → Option (BlockText × Input)
  | 0, content, input => some (content, input)
  | _, content, [] => some (content, [])
  | steps + 1, content, c :: rest =>
      if c.column = indent then do
        let input : Input := c :: rest
        let text := content.addLine folds (input.takeText (!isBreak ·))
        let rest := input.dropText (!isBreak ·)
        let lineEnd := (rest.take 1).map (·.char)
        let (emptyLines, _, rest) ← blockGap (some indent) (rest.drop 1)
        blockLines folds indent steps ⟨text, lineEnd, emptyLines, isBlank c.char⟩ rest
      else some (content, c :: rest)

/-- A block scalar behind its style mark, and what follows it. The column of the block it
stands in is given unless it stands in none. -/
def blockScalar (folds : Bool) (outer : Option Nat) (input : Input) :
    Option (Text × Input) := do
  let (header, input) ← BlockHeader.read? input
  let stated := header.increment.map (outer.getD 0 + ·)
  let (emptyLines, column, input) ← blockGap stated input
  let least := (outer.map (· + 1)).getD 1
  let indent := stated.getD (max column least)
  let (content, rest) ←
    blockLines folds indent input.length ⟨[], [], emptyLines, false⟩ input
  return (content.chomped header.chomping, rest)

end TokenConcord.Yaml
