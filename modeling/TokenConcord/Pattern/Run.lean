import Std.Data.HashSet
import TokenConcord.Pattern.Cursor

/-!
# Matching

A pattern is run from a cursor in a line. Of all ways to match, the preferred one counts:
alternatives are tried in order, and a greedy loop tries one more round before it goes on.
A run is given what has to follow the match, and backs up to the next way whenever that
fails.

A run makes each choice of the pattern once at each position. When it comes to the same choice
at the same position again, that way fails: what can be found from there has been tried, or is
being tried, on the way that came first and is preferred. So a loop does not go round without
consuming anything, and the work is bounded by the size of the pattern and the length of the
line.
-/

namespace TokenConcord

/-- Where a numbered group matched last. -/
structure Capture where
  index : Nat
  start : Nat
  stop : Nat
  deriving DecidableEq, Repr

/-- Captures of a match, the latest first. -/
abbrev Captures := List Capture

namespace Pattern

variable {β : Type}

/-! ## Attempts -/

/-- A turn on the way from a pattern to one of its choices. -/
inductive Turn where
  /-- To the first part of a sequence or a choice. -/
  | left
  /-- To the second part. -/
  | right
  /-- Into what a repetition repeats. -/
  | body
  /-- To one of several matches, with the number of those behind it. -/
  | copy (behind : Nat)
  deriving DecidableEq, Hashable, Repr

/-- A choice of a pattern at a position. The choice is known by the turns that lead there, the
last one first, and the position by the number of characters that remain. -/
structure Spot where
  turns : List Turn
  remaining : Nat
  deriving DecidableEq, Hashable, Repr

/-- The spots that a run has come to. -/
abbrev Visited := Std.HashSet Spot

/-- A search for a result that keeps the spots it comes to. -/
abbrev Attempt (β : Type) := Visited → Option β × Visited

namespace Attempt

/-- No result. -/
def failure : Attempt β := fun visited => (none, visited)

/-- One way if it succeeds, and otherwise the other one. -/
def orElse (way other : Unit → Attempt β) : Attempt β := fun visited =>
  match way () visited with
  | (some found, visited) => (some found, visited)
  | (none, visited) => other () visited

/-- A round again or what is next, the preferred one first. -/
def prefer (greedy : Bool) (again next : Unit → Attempt β) : Attempt β :=
  if greedy then orElse again next else orElse next again

/-- The attempt from a spot, unless the run has come there before. -/
def once (turns : List Turn) (remaining : Nat) (attempt : Unit → Attempt β) : Attempt β :=
  fun visited =>
    if visited.contains ⟨turns, remaining⟩ then (none, visited)
    else attempt () (visited.insert ⟨turns, remaining⟩)

/-- The attempt from a spot. Visits are kept only of spots that are `shared`, where a run may
come by more than one way. -/
def onceIf (shared : Bool) (turns : List Turn) (remaining : Nat)
    (attempt : Unit → Attempt β) : Attempt β :=
  if shared then once turns remaining attempt else attempt ()

end Attempt

/-! ## Runs -/

/-- A way to go on from a cursor with what was captured so far. -/
abbrev Continuation (β : Type) := Cursor → Captures → Attempt β

/-- What is run from a cursor before it is gone on. -/
abbrev Round (β : Type) := Cursor → Captures → Continuation β → Attempt β

/-- A fixed number of rounds. -/
def runTimes (round : List Turn → Round β) (turns : List Turn) : Nat → Round β
  | 0, cursor, captures, next => next cursor captures
  | count + 1, cursor, captures, next =>
      round (.copy count :: turns) cursor captures fun cursor captures =>
        runTimes round turns count cursor captures next

/-- At most a number of rounds. -/
def runUpTo (shared : Bool) (round : List Turn → Round β) (turns : List Turn) (greedy : Bool) :
    Nat → Round β
  | 0, cursor, captures, next => next cursor captures
  | count + 1, cursor, captures, next =>
      let turns' := .copy count :: turns
      Attempt.onceIf shared turns' cursor.remaining fun _ =>
        Attempt.prefer greedy
          (fun _ => round (.body :: turns') cursor captures fun cursor captures =>
            runUpTo shared round turns greedy count cursor captures next)
          (fun _ => next cursor captures)

/-- Any number of rounds, and then what is next. The choice between them is made at most
`bound` times, once at each position that is left. -/
def runLoop (shared : Bool) (round : List Turn → Round β) (turns : List Turn) (greedy : Bool) :
    Nat → Round β
  | 0, _, _, _ => Attempt.failure
  | bound + 1, cursor, captures, next =>
      Attempt.onceIf shared turns cursor.remaining fun _ =>
        Attempt.prefer greedy
          (fun _ => round (.body :: turns) cursor captures fun cursor captures =>
            runLoop shared round turns greedy bound cursor captures next)
          (fun _ => next cursor captures)

/-- Match a pattern at a cursor and go on with `next`, in order of preference. The turns lead
to the pattern, and it is `shared` if a run may come to it at one position by more than one
way. -/
def run : Pattern → Bool → List Turn → Round β
  | empty, _, _, cursor, captures, next => next cursor captures
  | set s, _, _, cursor, captures, next =>
      match cursor.rest with
      | [] => Attempt.failure
      | c :: rest =>
          if s.mem c then next (cursor.advance c rest) captures else Attempt.failure
  | look assertion, _, _, cursor, captures, next =>
      if assertion.holds cursor.before cursor.rest then next cursor captures
      else Attempt.failure
  | seq p q, shared, turns, cursor, captures, next =>
      let shared' := shared || p.branches
      p.run shared (.left :: turns) cursor captures fun cursor captures =>
        q.run shared' (.right :: turns) cursor captures next
  | alt p q, shared, turns, cursor, captures, next =>
      Attempt.onceIf shared turns cursor.remaining fun _ =>
        Attempt.orElse (fun _ => p.run shared (.left :: turns) cursor captures next)
          (fun _ => q.run shared (.right :: turns) cursor captures next)
  | group index p, shared, turns, cursor, captures, next =>
      p.run shared turns cursor captures fun cursor' captures =>
        next cursor' (⟨index, cursor.offset, cursor'.offset⟩ :: captures)
  | bounded least further p greedy, shared, turns, cursor, captures, next =>
      let shared := shared || p.branches
      runTimes (p.run shared) (.left :: turns) least cursor captures fun cursor captures =>
        runUpTo shared (p.run shared) (.right :: turns) greedy further cursor captures next
  | star p greedy, shared, turns, cursor, captures, next =>
      let shared := shared || p.branches || p.nullable
      runLoop shared (p.run shared) turns greedy (cursor.remaining + 1) cursor captures next
  | plus before p greedy, shared, turns, cursor, captures, next =>
      let shared := shared || p.branches || p.nullable
      runTimes (p.run shared) (.left :: turns) before cursor captures fun cursor captures =>
        p.run shared (.body :: turns) cursor captures fun cursor captures =>
          runLoop shared (p.run shared) turns greedy (cursor.remaining + 1) cursor captures next

end Pattern

end TokenConcord
