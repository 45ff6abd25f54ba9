import TokenConcord.Unicode.CaseFolding
import TokenConcord.Unicode.Runs

/-!
# Sets of characters

A character class of a pattern is a set of code points, kept as the ascending list of the code
points at which membership changes: the first one of the set, the first one behind it that is
outside, and so on. Two sets are combined in one sweep over their changes.
-/

namespace TokenConcord

/-- A set of characters. -/
structure CharSet where
  /-- The code points at which membership changes, ascending. -/
  changes : List Nat
  deriving DecidableEq, Repr

namespace CharSet

/-! ## Membership -/

/-- Whether a code point belongs to a set with the given changes, where `inside` says so of
the code points before the first change. -/
def holdsFrom (inside : Bool) : List Nat → Nat → Bool
  | [], _ => inside
  | change :: changes, n => if n < change then inside else holdsFrom (!inside) changes n

/-- Whether the set holds a code point. -/
def holds (s : CharSet) (n : Nat) : Bool := holdsFrom false s.changes n

/-- Whether the set holds a character. -/
def mem (s : CharSet) (c : Char) : Bool := s.holds c.toNat

theorem holdsFrom_not (inside : Bool) (changes : List Nat) (n : Nat) :
    holdsFrom (!inside) changes n = !holdsFrom inside changes n := by
  induction changes generalizing inside with
  | nil => rfl
  | cons change changes ih =>
      by_cases h : n < change
      · simp [holdsFrom, h]
      · simp only [holdsFrom, h, if_false, ih]

/-! ## Single sets -/

/-- The set without characters. -/
def none : CharSet := ⟨[]⟩

/-- All code points from `first` to `last`. -/
def range (first last : Nat) : CharSet := ⟨[first, last + 1]⟩

/-- The set of one character. -/
def single (c : Char) : CharSet := range c.toNat c.toNat

/-- The characters from one to another. -/
def between (first last : Char) : CharSet := range first.toNat last.toNat

/-- The changes of a table of runs, none of which adjoins the next one. -/
def changesOfRuns : List Nat → List Nat
  | first :: last :: runs => first :: (last + 1) :: changesOfRuns runs
  | _ => []

/-- The characters in a table of runs. -/
def ofRuns (runs : List Nat) : CharSet := ⟨changesOfRuns runs⟩

/-- The changes of a set behind `stop`, the end of a run, where code points are listed in
ascending order. -/
def changesFrom (stop : Nat) : List Nat → List Nat
  | [] => [stop]
  | n :: ns =>
      if n < stop then changesFrom stop ns
      else if n = stop then changesFrom (n + 1) ns
      else stop :: n :: changesFrom (n + 1) ns

/-- The set of the listed code points. -/
def ofList (ns : List Nat) : CharSet :=
  match ns.mergeSort with
  | [] => none
  | n :: ns => ⟨n :: changesFrom (n + 1) ns⟩

/-! ## Combinations -/

/-- A change at a point in front of others, unless membership stays the same there. -/
def turn (before after : Bool) (point : Nat) (changes : List Nat) : List Nat :=
  if before = after then changes else point :: changes

/-- The changes of a combination of two sets, where `left` and `right` tell membership in
each before the first change. -/
def sweep (op : Bool → Bool → Bool) (left right : Bool) : List Nat → List Nat → List Nat
  | [], [] => []
  | a :: xs, [] => turn (op left right) (op (!left) right) a (sweep op (!left) right xs [])
  | [], b :: ys => turn (op left right) (op left (!right)) b (sweep op left (!right) [] ys)
  | a :: xs, b :: ys =>
      if a < b then turn (op left right) (op (!left) right) a (sweep op (!left) right xs (b :: ys))
      else if b < a then
        turn (op left right) (op left (!right)) b (sweep op left (!right) (a :: xs) ys)
      else turn (op left right) (op (!left) (!right)) a (sweep op (!left) (!right) xs ys)
termination_by xs ys => xs.length + ys.length

/-- The characters of either set. -/
def union (s t : CharSet) : CharSet := ⟨sweep (· || ·) false false s.changes t.changes⟩

/-- The characters of both sets. -/
def inter (s t : CharSet) : CharSet := ⟨sweep (· && ·) false false s.changes t.changes⟩

/-- The characters of the first set that the second one lacks. -/
def diff (s t : CharSet) : CharSet := ⟨sweep (· && !·) false false s.changes t.changes⟩

/-- The characters of one set but not of the other. -/
def symDiff (s t : CharSet) : CharSet := ⟨sweep (· != ·) false false s.changes t.changes⟩

/-- The characters outside the set. -/
def compl (s : CharSet) : CharSet :=
  match s.changes with
  | 0 :: changes => ⟨changes⟩
  | changes => ⟨0 :: changes⟩

/-- The characters of all sets of a list. -/
def unions : List CharSet → CharSet
  | [] => none
  | [s] => s
  | s :: sets => union s (unions sets)

/-- The characters in one of several tables of runs. -/
def ofTables (tables : List (List Nat)) : CharSet := unions (tables.map ofRuns)

/-- All characters that differ in case at most from one of the set. -/
def caseless (s : CharSet) : CharSet :=
  s.union (ofList (Unicode.caseClasses.flatMap fun variants =>
    if variants.any s.holds then variants else []))

/-- All characters that differ from one of the set at most in the case of an ASCII letter. -/
def caselessAscii (s : CharSet) : CharSet :=
  s.union (ofList ((List.range 26).flatMap fun i =>
    let variants := ['A'.toNat + i, 'a'.toNat + i]
    if variants.any s.holds then variants else []))

@[simp] theorem holds_compl (s : CharSet) (n : Nat) : s.compl.holds n = !s.holds n := by
  obtain ⟨changes⟩ := s
  have flip := holdsFrom_not false changes n
  match changes with
  | [] => rfl
  | 0 :: changes => simpa [compl, holds, holdsFrom] using holdsFrom_not true changes n
  | (first + 1) :: changes => simpa [compl, holds, holdsFrom] using flip

end CharSet

end TokenConcord
