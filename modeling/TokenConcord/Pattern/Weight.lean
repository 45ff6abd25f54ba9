import TokenConcord.Pattern.Basic

/-!
# Weights

A pattern with its repetitions written out must not grow too large. Its weight is the number of
bytes that a table of its states takes up, where a state reads one byte of UTF-8. A set of
characters takes a tree of states: one for each way to begin the bytes of its characters.
-/

namespace TokenConcord

/-- Weight of one state. -/
def stateWeight : Nat := 32

/-- Weight of a reference to a state among several. -/
def branchWeight : Nat := 4

/-- Weight of a range of bytes among several. -/
def rangeWeight : Nat := 8

/-- Largest weight that a pattern may have. -/
def maxWeight : Nat := 10485760

/-- A range of bytes. -/
abbrev ByteRange := Nat × Nat

/-- The code points from `first` to `last` as sequences of ranges, one for each byte, in
ascending order. The first range counts in steps of the bytes behind it, of which there are
`tail`. -/
def byteSequences : Nat → Nat → Nat → List (List ByteRange)
  | 0, first, last => [[(first, last)]]
  | tail + 1, first, last =>
      let step := Nat.pow 64 (tail + 1)
      let whole := List.replicate (tail + 1) (0, 63)
      let inStep (n : Nat) (sequences : List (List ByteRange)) : List (List ByteRange) :=
        sequences.map ((n, n) :: ·)
      let low := first / step
      let high := last / step
      if low = high then inStep low (byteSequences tail (first % step) (last % step))
      else
        let start :=
          if first % step = 0 then [] else inStep low (byteSequences tail (first % step) (step - 1))
        let stop :=
          if last % step = step - 1 then [] else inStep high (byteSequences tail 0 (last % step))
        let low := if start.isEmpty then low else low + 1
        let next := if stop.isEmpty then high + 1 else high
        start ++ (if low < next then [(low, next - 1) :: whole] else []) ++ stop

/-- Number of states for sequences in ascending order: those with a common beginning share the
states for it. -/
def sharedStates : List ByteRange → List (List ByteRange) → Nat
  | _, [] => 0
  | before, ranges :: sequences =>
      let shared := ((before.zip ranges).takeWhile fun (r, s) => r == s).length
      ranges.length - shared + sharedStates ranges sequences

namespace CharSet

/-- The runs of the set between two code points. -/
def runsWithin (lower upper : Nat) : List Nat → List (Nat × Nat)
  | first :: next :: changes =>
      let first := max first lower
      let last := min (next - 1) upper
      if first ≤ last then (first, last) :: runsWithin lower upper changes
      else runsWithin lower upper changes
  | [first] => if max first lower ≤ upper then [(max first lower, upper)] else []
  | [] => []

/-- Code points of each length in UTF-8, with the number of bytes behind the first one. The
surrogates are left out. -/
def byteLengths : List (Nat × Nat × Nat) :=
  [(0, 0x7F, 0), (0x80, 0x7FF, 1), (0x800, 0xD7FF, 2), (0xE000, 0xFFFF, 2),
    (0x10000, 0x10FFFF, 3)]

/-- Whether all characters of the set are ASCII characters. -/
def isAscii (s : CharSet) : Bool :=
  s.changes.length % 2 == 0 && s.changes.getLast?.all (· ≤ 0x80)

/-- Weight of the set. A set without characters takes a state too. -/
def weight (s : CharSet) : Nat :=
  match s.changes with
  | [] => stateWeight
  | [first, next] =>
      if next = first + 1 then (Char.ofNat first).utf8Size * stateWeight
      else if next ≤ 0x80 then 2 * stateWeight + rangeWeight
      else treeWeight
  | changes =>
      if s.isAscii then 2 * stateWeight + changes.length / 2 * rangeWeight else treeWeight
where
  /-- Weight of the tree of states. -/
  treeWeight : Nat :=
    let trees := byteLengths.map fun (lower, upper, tail) =>
      let sequences := (runsWithin lower upper s.changes).flatMap fun (first, last) =>
        byteSequences tail first last
      stateWeight * sharedStates [] sequences + branchWeight * sequences.length
    trees.foldl (· + ·) (2 * stateWeight)

end CharSet

namespace Pattern

/-- Weight of a choice of two ways to go on. -/
def choiceWeight : Nat := stateWeight + 2 * branchWeight

/-- Weight of a choice in front of its last alternative, which may be a choice itself: then it
is the same choice among more alternatives. -/
def joinWeight : Pattern → Nat
  | alt _ _ => branchWeight
  | _ => 2 * stateWeight + 2 * branchWeight

/-- Weight of the pattern. Each match of a repetition is written out, and each that may be left
out has a choice of its own. -/
def weight : Pattern → Nat
  | empty => stateWeight
  | set s => s.weight
  | look _ => stateWeight
  | seq p q => p.weight + q.weight
  | alt p q => p.weight + q.weight + q.joinWeight
  | group _ p => p.weight + 2 * stateWeight
  | bounded least 0 p _ => least * p.weight
  | bounded least further p _ =>
      (least + further) * p.weight + further * choiceWeight + stateWeight
  | star p _ => p.weight + choiceWeight
  | plus before p _ => (before + 1) * p.weight + choiceWeight

end Pattern

end TokenConcord
