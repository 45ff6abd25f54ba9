/-!
# Text and byte positions

Source text is a list of characters. Positions in it are byte offsets of its UTF-8 form, so
every cut names the number of bytes before it, and a position inside a character is no cut.
-/

namespace TokenConcord

/-- Source text, one character after another. -/
abbrev Text := List Char

namespace Text

/-- Number of bytes the text takes in UTF-8. -/
def width : Text → Nat
  | [] => 0
  | c :: text => c.utf8Size + width text

@[simp] theorem width_nil : width [] = 0 := rfl

@[simp] theorem width_cons (c : Char) (text : Text) :
    width (c :: text) = c.utf8Size + width text := rfl

@[simp] theorem width_append (text more : Text) :
    width (text ++ more) = width text + width more := by
  induction text with
  | nil => simp
  | cons c text ih => simp [ih, Nat.add_assoc]

/-- Cut the text after a number of bytes, unless that falls inside a character or beyond
the end. -/
def cut? : Text → Nat → Option (Text × Text)
  | text, 0 => some ([], text)
  | [], _ + 1 => none
  | c :: text, n + 1 =>
      if c.utf8Size ≤ n + 1 then
        (cut? text (n + 1 - c.utf8Size)).map fun (before, after) => (c :: before, after)
      else none

/-- The piece of the text between two byte offsets, if both are cuts and in order. -/
def slice? (text : Text) (start stop : Nat) : Option Text :=
  if start ≤ stop then do
    let (_, after) ← cut? text start
    let (piece, _) ← cut? after (stop - start)
    return piece
  else none

/-- The pieces between line feeds: always one more than there are line feeds. -/
def splitLines : Text → List Text
  | [] => [[]]
  | c :: text =>
      if c = '\n' then [] :: splitLines text
      else
        match splitLines text with
        | [] => [[c]]
        | line :: lines => (c :: line) :: lines

/-- The text without the carriage return it may end in. -/
def dropReturn : Text → Text
  | [] => []
  | ['\r'] => []
  | c :: text => c :: dropReturn text

/-- The lines of a file: a line ends in a line feed or in a carriage return and a line
feed, and the last line may lack its end. -/
def fileLines (text : Text) : List Text :=
  let pieces := splitLines text
  match pieces.getLast? with
  | some [] => pieces.dropLast.map dropReturn
  | some last => pieces.dropLast.map dropReturn ++ [last]
  | none => []

/-- Pieces joined by a separator. -/
def joinWith (separator : String) (pieces : List String) : String :=
  separator.intercalate pieces

end Text

end TokenConcord
