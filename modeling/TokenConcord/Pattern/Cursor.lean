import TokenConcord.Pattern.Basic
import TokenConcord.Text.Basic

/-!
# Cursors

A position in a line with the text around it, and what can be said of such a position.
-/

namespace TokenConcord

/-- A position in a line: the bytes before it, the character before it, the text behind it, and
the number of characters of that text. -/
structure Cursor where
  offset : Nat
  before : Option Char
  rest : Text
  remaining : Nat
  deriving DecidableEq, Repr

namespace Cursor

/-- The start of a line. -/
def ofLine (line : Text) : Cursor := ⟨0, none, line, line.length⟩

/-- The position behind the character `c`, which `rest` follows. -/
def advance (cursor : Cursor) (c : Char) (rest : Text) : Cursor :=
  ⟨cursor.offset + c.utf8Size, some c, rest, cursor.remaining - 1⟩

/-- The first result of a test at a cursor and at all positions behind it, from left to
right. -/
def findSome? {β : Type} (test : Cursor → Option β) (offset : Nat) (before : Option Char)
    (remaining : Nat) : Text → Option β
  | [] => test ⟨offset, before, [], remaining⟩
  | c :: rest =>
      match test ⟨offset, before, c :: rest, remaining⟩ with
      | some found => some found
      | none => findSome? test (offset + c.utf8Size) (some c) (remaining - 1) rest

/-- The first result of a test at a cursor or behind it. -/
def search? {β : Type} (test : Cursor → Option β) (cursor : Cursor) : Option β :=
  findSome? test cursor.offset cursor.before cursor.remaining cursor.rest

end Cursor

/-- Whether a character of a set is there. -/
def CharSet.memAt (s : CharSet) (c : Option Char) : Bool := c.any s.mem

/-- Whether an assertion holds between a character and the text behind it. -/
def Assertion.holds (before : Option Char) (rest : Text) : Assertion → Bool
  | textStart => before.isNone
  | textEnd => rest.isEmpty
  | lineStart returns =>
      before.isNone || before == some '\n' ||
        (returns && before == some '\r' && rest.head? != some '\n')
  | lineEnd returns =>
      rest.isEmpty || (rest.head? == some '\n' && !(returns && before == some '\r')) ||
        (returns && rest.head? == some '\r')
  | wordBoundary word => word.memAt before != word.memAt rest.head?
  | notWordBoundary word => word.memAt before == word.memAt rest.head?
  | wordStart word => !word.memAt before && word.memAt rest.head?
  | wordEnd word => word.memAt before && !word.memAt rest.head?
  | wordStartHalf word => !word.memAt before
  | wordEndHalf word => !word.memAt rest.head?

end TokenConcord
