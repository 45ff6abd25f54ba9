import TokenConcord.Proofs.Outcome
import TokenConcord.Proofs.Pattern.Reads

/-!
# Searches from a byte offset

A search that starts at a byte offset needs a cut between characters there, and a search that
goes on behind each empty match needs an end. Here both may fail. They do not where the offset is
a cut, and what they find is then the leftmost match behind it, and the leftmost one that consumes
a character.
-/

namespace TokenConcord

/-- What may fail while a line is tokenized. -/
inductive Fault where
  /-- There is no rule at a position. -/
  | noRule (id : Nat)
  /-- No rule is open. -/
  | noFrame
  /-- A byte offset lies inside a character or beyond the end of the line. -/
  | noCut (offset : Nat)
  /-- A loop has not come to its end in the rounds that it has. -/
  | unfinished
  deriving DecidableEq, Repr

/-- The cursor at a byte offset of a line. -/
def Text.cursorAt (line : Text) (offset : Nat) : Except Fault Cursor :=
  match line.cut? offset with
  | none => .error (.noCut offset)
  | some (front, rest) => .ok (.between front rest)

theorem Text.cursorAt_width (front rest : Text) :
    (front ++ rest).cursorAt front.width = .ok (.between front rest) := by
  rw [cursorAt, cut?_append]

/-! ## Two searches -/

namespace Cursor

variable {β γ : Type} {test : Cursor → Option β} {other : Cursor → Option γ} {front rest : Text}

/-- A search that finds nothing shows that another one finds nothing either, where it could only
find something at the same positions. -/
theorem search?_eq_none_of_imp (himp : ∀ cursor, test cursor = none → other cursor = none)
    (h : (between front rest).search? test = none) : (between front rest).search? other = none := by
  induction rest generalizing front with
  | nil => exact himp _ h
  | cons c rest ih =>
      rw [search?_cons] at h ⊢
      obtain ⟨hhere, hbehind⟩ := Option.or_eq_none_iff.mp h
      rw [himp _ hhere, Option.none_or]
      exact ih hbehind

/-- Where a search finds something, another one, which could only find something at the same
positions, goes on. -/
theorem search?_resume (himp : ∀ cursor, test cursor = none → other cursor = none) {found : β}
    (h : (between front rest).search? test = some found) :
    ∃ gap after, rest = gap ++ after ∧ test (between (front ++ gap) after) = some found ∧
      (between front rest).search? other = (between (front ++ gap) after).search? other := by
  induction rest generalizing front with
  | nil => exact ⟨[], [], rfl, by simpa using h, by simp⟩
  | cons c rest ih =>
      cases hhere : test (between front (c :: rest)) with
      | some here =>
          rw [search?_cons, hhere, Option.some_or] at h
          cases h
          exact ⟨[], c :: rest, rfl, by simpa using hhere, by simp⟩
      | none =>
          rw [search?_cons, hhere, Option.none_or] at h
          obtain ⟨gap, after, rfl, htest, hother⟩ := ih h
          refine ⟨c :: gap, after, rfl, by simpa using htest, ?_⟩
          rw [search?_cons, himp _ hhere, Option.none_or, hother]
          simp

theorem search?_map (f : β → γ) (test : Cursor → Option β) (front rest : Text) :
    (between front rest).search? (fun cursor => (test cursor).map f) =
      ((between front rest).search? test).map f := by
  induction rest generalizing front with
  | nil => rfl
  | cons c rest ih => rw [search?_cons, search?_cons, ih, Option.map_or]

end Cursor

/-! ## Searches for a pattern -/

namespace Pattern

/-- The leftmost match at or behind a byte offset. -/
def firstFrom (p : Pattern) (line : Text) (offset : Nat) : Except Fault (Option Match) := do
  let cursor ← line.cursorAt offset
  return p.first? cursor

/-- The leftmost match at or behind a byte offset that consumes a character: behind a match that
consumes none the search goes on after the next character, for a number of rounds. -/
def skipEmpty (p : Pattern) (line : Text) : Nat → Nat → Except Fault (Option Match)
  | 0, _ => .error .unfinished
  | rounds + 1, offset =>
      if line.width < offset then .ok none
      else do
        match ← p.firstFrom line offset with
        | none => .ok none
        | some found =>
            if found.start < found.stop.offset then .ok (some found)
            else
              let cursor ← line.cursorAt found.start
              match cursor.rest with
              | [] => skipEmpty p line rounds (line.width + 1)
              | c :: _ => skipEmpty p line rounds (found.start + c.utf8Size)

theorem firstFrom_width (p : Pattern) (front rest : Text) :
    p.firstFrom (front ++ rest) front.width = .ok (p.first? (.between front rest)) := by
  rw [firstFrom, Text.cursorAt_width]
  rfl

theorem nonEmptyAt_of_matchAt_none {p : Pattern} (cursor : Cursor)
    (h : p.matchAt cursor = none) : p.nonEmptyAt cursor = none := by
  rw [nonEmptyAt, h, Option.filter_none]

/-- Each round leaves fewer characters to search, so that there are enough rounds. -/
theorem skipEmpty_width (p : Pattern) {rounds : Nat} {front rest : Text}
    (h : rest.length + 2 ≤ rounds) :
    p.skipEmpty (front ++ rest) rounds front.width =
      .ok (p.firstNonEmpty? (.between front rest)) := by
  induction rounds generalizing front rest with
  | zero => omega
  | succ rounds ih =>
      have hwithin : ¬ (front ++ rest).width < front.width := by
        rw [Text.width_append]
        omega
      rw [skipEmpty, if_neg hwithin, firstFrom_width]
      cases hfirst : p.first? (.between front rest) with
      | none =>
          rw [firstNonEmpty?, Cursor.search?_eq_none_of_imp nonEmptyAt_of_matchAt_none hfirst]
          rfl
      | some found =>
          obtain ⟨gap, after, rfl, hmatch, hresume⟩ :=
            Cursor.search?_resume nonEmptyAt_of_matchAt_none hfirst
          have hstart : found.start = (front ++ gap).width := (matchAt_within hmatch).1
          rw [firstNonEmpty?, hresume]
          dsimp only [bind, Except.bind]
          split
          next hless =>
            have hnonEmpty : p.nonEmptyAt (.between (front ++ gap) after) = some found := by
              rw [nonEmptyAt, hmatch, Option.filter_some, if_pos]
              exact decide_eq_true hless
            rw [Cursor.search?_of_some hnonEmpty]
          next hless =>
            have hempty : p.nonEmptyAt (.between (front ++ gap) after) = none := by
              rw [nonEmptyAt, hmatch, Option.filter_some, if_neg]
              exact fun hnonEmpty => hless (of_decide_eq_true hnonEmpty)
            rw [← List.append_assoc, hstart, Text.cursorAt_width]
            cases after with
            | nil =>
                obtain ⟨later, rfl⟩ : ∃ later, rounds = later + 1 :=
                  Nat.exists_eq_add_one.mpr (by omega)
                rw [Cursor.search?_end, hempty]
                dsimp only [Cursor.between_rest]
                rw [skipEmpty, if_pos (Nat.lt_succ_self _)]
            | cons c after =>
                rw [Cursor.search?_cons, hempty, Option.none_or]
                have hrounds : after.length + 2 ≤ rounds := by
                  simp only [List.length_append, List.length_cons] at h
                  omega
                have hbehind := @ih (front ++ gap ++ [c]) after hrounds
                rwa [Text.width_append _ [c], List.append_assoc _ [c]] at hbehind

end Pattern

end TokenConcord
