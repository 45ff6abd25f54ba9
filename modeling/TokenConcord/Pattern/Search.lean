import TokenConcord.Pattern.Run

/-!
# Matches in a line

A search tries the positions of a line from left to right. At each of them the preferred match
counts, if there is one.
-/

namespace TokenConcord

/-- A match of a pattern in a line. -/
structure Match where
  start : Nat
  /-- The cursor behind the match. -/
  stop : Cursor
  captures : Captures
  deriving DecidableEq, Repr

namespace Match

/-- Whether the match consumes a character. -/
def nonEmpty (found : Match) : Bool := found.start < found.stop.offset

/-- Where a group matched; group zero is the whole match. -/
def group? (found : Match) (index : Nat) : Option (Nat × Nat) :=
  if index = 0 then some (found.start, found.stop.offset)
  else (found.captures.find? (·.index == index)).map fun capture =>
    (capture.start, capture.stop)

end Match

namespace Pattern

/-- The preferred match that starts at a cursor. -/
def matchAt (p : Pattern) (cursor : Cursor) : Option Match :=
  (p.run false [] cursor [] (fun stop captures visited =>
    (some ⟨cursor.offset, stop, captures⟩, visited)) ∅).1

/-- The preferred match that starts at a cursor, if it consumes a character. -/
def nonEmptyAt (p : Pattern) (cursor : Cursor) : Option Match :=
  (p.matchAt cursor).filter Match.nonEmpty

/-- The leftmost match at or behind a cursor. -/
def first? (p : Pattern) (cursor : Cursor) : Option Match := cursor.search? p.matchAt

/-- The leftmost match at or behind a cursor that consumes a character: a position whose
preferred match is empty is passed over. -/
def firstNonEmpty? (p : Pattern) (cursor : Cursor) : Option Match := cursor.search? p.nonEmptyAt

end Pattern

end TokenConcord
