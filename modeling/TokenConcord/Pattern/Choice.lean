import TokenConcord.Pattern.Basic

/-!
# Choices that begin alike

Alternatives that all begin with the same pieces are read as these pieces and a choice of what
follows them: `.*a|.*b` is read as `.*(?:a|b)`. So all ways to match the common beginning come
before the choice. A single piece or a word is not taken apart. A choice of characters is one
set, and so is a choice of other sets.
-/

namespace TokenConcord.Pattern

/-- The pieces that a pattern puts one after another. -/
def pieces : Pattern → List Pattern
  | empty => []
  | seq p q => p.pieces ++ q.pieces
  | p => [p]

/-- The alternatives of a pattern, the preferred one first. -/
def alternatives : Pattern → List Pattern
  | alt p q => p.alternatives ++ q.alternatives
  | p => [p]

/-- The set of characters that the pattern stands for, if it is one. -/
def set? : Pattern → Option CharSet
  | set s => some s
  | _ => none

/-- Whether the pattern stands for one character and no other. -/
def isCharacter : Pattern → Bool
  | set ⟨[first, next]⟩ => next == first + 1
  | _ => false

/-- Whether pieces are more than one piece or one word. -/
def areCompound (pieces : List Pattern) : Bool :=
  1 < pieces.length && !pieces.all isCharacter

/-- What two lists of pieces begin with alike. -/
def commonStart : List Pattern → List Pattern → List Pattern
  | p :: ps, q :: qs => if p = q then p :: commonStart ps qs else []
  | _, _ => []

/-- A choice of alternatives, each given by its pieces, with what all of them begin with in
front. -/
def chooseBehind : List (List Pattern) → Pattern
  | [] => empty
  | [only] => sequence only
  | first :: others =>
      let start :=
        if (first :: others).all areCompound then others.foldl commonStart first else []
      let ends := (first :: others).map fun pieces => sequence (pieces.drop start.length)
      sequence (start ++ [choice ends])

/-- Alternatives to choose from, the preferred one first. -/
def choose (patterns : List Pattern) : Pattern :=
  let alternatives := patterns.flatMap alternatives
  let alike := alternatives.all isCharacter || !alternatives.any isCharacter
  match alternatives.mapM set?, alike with
  | some sets, true => set (CharSet.unions sets)
  | _, _ => chooseBehind (alternatives.map pieces)

end TokenConcord.Pattern
