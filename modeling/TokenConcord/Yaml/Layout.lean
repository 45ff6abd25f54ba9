import TokenConcord.Yaml.Token

/-!
# YAML layout

Where the blocks of a YAML text start and end, and which of its nodes are keys. A block
lasts as long as lines are indented at least as deep as its first one. A key shows itself
only by the colon behind it, so each place where a key may stand is remembered until the
line ends, and the tokens of a key and of its block are put there afterwards.
-/

namespace TokenConcord.Yaml

/-- A place where a key may stand. -/
structure KeyCandidate where
  /-- Number of tokens before it. -/
  place : Nat
  line : Nat
  column : Nat
  /-- Whether nothing but a key may stand there. -/
  required : Bool
  deriving DecidableEq, Repr

/-- Most characters between the start of a key and its colon. -/
def maxKeyWidth : Nat := 1024

/-- Whether a candidate is too far from a character to be a key. -/
def KeyCandidate.isExpired (key : KeyCandidate) (c : Placed) : Bool :=
  key.line < c.line || key.column + maxKeyWidth < c.column

/-- A text read up to some character. -/
structure Layout where
  input : Input
  /-- Tokens found, the latest first. -/
  tokens : List Token
  /-- Columns of the open blocks, the innermost first. -/
  indents : List Nat
  /-- The candidate inside the innermost brackets. -/
  key : Option KeyCandidate
  /-- The candidates outside of them, for each pair of open brackets. -/
  outerKeys : List (Option KeyCandidate)
  /-- Whether a key or a block may start here. -/
  keyAllowed : Bool

namespace Layout

/-- A text of which nothing was read. -/
def start (input : Input) : Layout := ⟨input, [], [], none, [], true⟩

/-- Whether brackets are open. -/
def inFlow (layout : Layout) : Bool := !layout.outerKeys.isEmpty

/-- Add a token that ends where the given input begins. -/
def emit (layout : Layout) (token : Token) (rest : Input) : Layout :=
  { layout with input := rest, tokens := token :: layout.tokens }

/-- Put a token behind the first ones, whose number is given. -/
def insertAt (layout : Layout) (place : Nat) (token : Token) : Layout :=
  let later := layout.tokens.length - place
  { layout with
    tokens := layout.tokens.take later ++ token :: layout.tokens.drop later }

/-- Allow or forbid a key at the next place. -/
def allowKey (layout : Layout) (allowed : Bool) : Layout :=
  { layout with keyAllowed := allowed }

/-! ## Candidates for keys -/

/-- Give up the candidates that are too far from a character. -/
def expireKeys (layout : Layout) (c : Placed) : Option Layout :=
  let isOverdue (key : KeyCandidate) : Bool := key.isExpired c && key.required
  if layout.key.any isOverdue || layout.outerKeys.any (·.any isOverdue) then none
  else
    some { layout with
      key := layout.key.filter (!·.isExpired c)
      outerKeys := layout.outerKeys.map (·.filter (!·.isExpired c)) }

/-- Give up the innermost candidate. -/
def dropKey (layout : Layout) : Option Layout :=
  if layout.key.any (·.required) then none else some { layout with key := none }

/-- Make a character the innermost candidate, where a key is allowed. It has to be a key at
the column of the block it stands in. -/
def saveKey (layout : Layout) (c : Placed) : Option Layout :=
  if layout.keyAllowed then do
    let required := !layout.inFlow && layout.indents.head? = some c.column
    let layout ← layout.dropKey
    return { layout with key := some ⟨layout.tokens.length, c.line, c.column, required⟩ }
  else some layout

/-! ## Blocks -/

/-- Open a block at a column, unless brackets are open or the column is not deeper than that
of the innermost block. Its first token stands behind the given number of tokens. -/
def openBlock (layout : Layout) (column : Nat) (place : Nat) (token : Token) : Layout :=
  if !layout.inFlow && layout.indents.head?.all (· < column) then
    { layout.insertAt place token with indents := column :: layout.indents }
  else layout

/-- Close the blocks that are deeper than a column, or all of them. -/
def closeBlocks (layout : Layout) (column : Option Nat) : Layout :=
  if layout.inFlow then layout
  else
    let closed := layout.indents.takeWhile fun indent => column.all (· < indent)
    { layout with
      indents := layout.indents.drop closed.length
      tokens := closed.map (fun _ => .blockEnd) ++ layout.tokens }

/-! ## Tokens -/

/-- A mark at the start of a line that belongs to no block. -/
def outermost (layout : Layout) (found : Token × Input) : Option Layout := do
  let layout ← (layout.closeBlocks none).dropKey
  return (layout.allowKey false).emit found.1 found.2

/-- An opening bracket. -/
def openFlow (layout : Layout) (c : Placed) (token : Token) (rest : Input) :
    Option Layout := do
  let layout ← layout.saveKey c
  let inner := { layout with key := none, outerKeys := layout.key :: layout.outerKeys }
  return (inner.allowKey true).emit token rest

/-- A closing bracket. -/
def closeFlow (layout : Layout) (token : Token) (rest : Input) : Option Layout := do
  let layout ← layout.dropKey
  let outer := match layout.outerKeys with
    | [] => layout
    | key :: outerKeys => { layout with key, outerKeys }
  return (outer.allowKey false).emit token rest

/-- A comma between brackets. -/
def separator (layout : Layout) (rest : Input) : Option Layout := do
  let layout ← layout.dropKey
  return (layout.allowKey true).emit .separator rest

/-- A dash in front of an entry. -/
def entry (layout : Layout) (c : Placed) (rest : Input) : Option Layout := do
  if !layout.inFlow && !layout.keyAllowed then none
  else
    let layout := layout.openBlock c.column layout.tokens.length .blockSequenceStart
    let layout ← layout.dropKey
    return (layout.allowKey true).emit .entry rest

/-- A question mark in front of a key. -/
def explicitKey (layout : Layout) (c : Placed) (rest : Input) : Option Layout := do
  if !layout.inFlow && !layout.keyAllowed then none
  else
    let layout := layout.openBlock c.column layout.tokens.length .blockMappingStart
    let layout ← layout.dropKey
    return (layout.allowKey !layout.inFlow).emit .key rest

/-- A colon in front of a value. It makes the innermost candidate a key. -/
def value (layout : Layout) (c : Placed) (rest : Input) : Option Layout :=
  match layout.key with
  | some key =>
      let layout := layout.insertAt key.place .key
      let layout := layout.openBlock key.column key.place .blockMappingStart
      some (({ layout with key := none }.allowKey false).emit .value rest)
  | none =>
      if !layout.inFlow && !layout.keyAllowed then none
      else
        let layout := layout.openBlock c.column layout.tokens.length .blockMappingStart
        some ((layout.allowKey !layout.inFlow).emit .value rest)

/-- Part of a node that may be a key and starts at a character. -/
def nodePart (layout : Layout) (c : Placed) (found : Option (Token × Input)) :
    Option Layout := do
  let layout ← layout.saveKey c
  let (token, rest) ← found
  return (layout.allowKey false).emit token rest

/-- A plain scalar. A key may follow it only behind a line break. -/
def plainScalar (layout : Layout) (c : Placed) : Option Layout := do
  let layout ← layout.saveKey c
  let indent := (layout.indents.head?.map (· + 1)).getD 0
  let (text, stop) ← plain layout.inFlow indent .empty layout.input
  return (layout.allowKey stop.broken).emit (.scalar .plain text) stop.rest

/-- A block scalar. -/
def blockScalar (layout : Layout) (style : Style) (rest : Input) : Option Layout := do
  let layout ← layout.dropKey
  let (text, rest) ← Yaml.blockScalar (style = .folded) layout.indents.head? rest
  return (layout.allowKey true).emit (.scalar style text) rest

/-- Read the token that starts with a character, of which the layout's input begins. -/
def read (layout : Layout) (c : Placed) (rest : Input) : Option Layout :=
  let input : Input := c :: rest
  let marks := layout.inFlow || rest.atGap
  if c.column = 0 && c.char = '%' then do layout.outermost (← Token.directive? rest)
  else if input.atMark '-' then layout.outermost (.documentStart, rest.drop 2)
  else if input.atMark '.' then layout.outermost (.documentEnd, rest.drop 2)
  else match c.char with
    | '[' => layout.openFlow c .flowSequenceStart rest
    | '{' => layout.openFlow c .flowMappingStart rest
    | ']' => layout.closeFlow .flowSequenceEnd rest
    | '}' => layout.closeFlow .flowMappingEnd rest
    | ',' => layout.separator rest
    | '-' => if rest.atGap then layout.entry c rest else layout.plainScalar c
    | '?' => if marks then layout.explicitKey c rest else layout.plainScalar c
    | ':' => if marks then layout.value c rest else layout.plainScalar c
    | '*' => layout.nodePart c ((Token.name? rest).map fun (name, rest) => (.reference name, rest))
    | '&' => layout.nodePart c ((Token.name? rest).map fun (name, rest) => (.anchor name, rest))
    | '!' => layout.nodePart c (Token.tag? layout.inFlow input)
    | '\'' => layout.nodePart c
        ((singleQuoted .empty rest).map fun (text, rest) => (.scalar .singleQuoted text, rest))
    | '"' => layout.nodePart c
        ((doubleQuoted .empty rest).map fun (text, rest) => (.scalar .doubleQuoted text, rest))
    | '|' => if layout.inFlow then none else layout.blockScalar .literal rest
    | '>' => if layout.inFlow then none else layout.blockScalar .folded rest
    | '\t' | '%' | '@' | '\x60' => none
    | _ => layout.plainScalar c

/-! ## Whole texts -/

/-- Pass over white space and comments, from inside a comment or not. A tab is passed over
only where no block may start, and a line break lets a key start outside brackets. -/
def skipSpace (inFlow keyAllowed inComment : Bool) : Input → Bool × Input
  | [] => (keyAllowed, [])
  | c :: rest =>
      if isBreak c.char then skipSpace inFlow (keyAllowed || !inFlow) false rest
      else if inComment || (c.column = 0 && c.char = byteOrderMark) || c.char = ' '
          || (c.char = '\t' && (inFlow || !keyAllowed)) then
        skipSpace inFlow keyAllowed inComment rest
      else if c.char = '#' then skipSpace inFlow keyAllowed true rest
      else (keyAllowed, c :: rest)

/-- The tokens of a text that is read to its end. -/
def finish (layout : Layout) : Option (List Token) := do
  let layout ← (layout.closeBlocks none).dropKey
  return layout.tokens.reverse

/-- Read tokens, at most a number of them, to the end of the text. -/
def run : Nat → Layout → Option (List Token)
  | 0, _ => none
  | steps + 1, layout => do
      let (keyAllowed, input) := skipSpace layout.inFlow layout.keyAllowed false layout.input
      let layout := { layout with keyAllowed, input }
      match input with
      | [] => layout.finish
      | c :: rest =>
          let layout ← layout.expireKeys c
          let layout ← (layout.closeBlocks (some c.column)).read c rest
          run steps layout

end Layout

/-- The tokens of a text. No token that is read is empty, which bounds their number. -/
def Token.scan? (text : Text) : Option (List Token) :=
  if text.all isAllowed then
    let input := Input.ofText text
    (Layout.start input).run (input.length + 1)
  else none

end TokenConcord.Yaml
