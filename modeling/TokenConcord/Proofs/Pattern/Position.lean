import TokenConcord.Pattern.Reach
import TokenConcord.Proofs.Text.Cuts

/-!
# Positions in a line

Every cursor of a search stands between two texts that make up the line. So what a match
reports, its two ends and the ends of its groups, are cuts between characters of the line.
-/

namespace TokenConcord

/-! ## Boundaries -/

/-- The offset lies between two characters of the text, or at one of its ends. -/
def Text.Boundary (text : Text) (offset : Nat) : Prop :=
  ∃ front rest, text = front ++ rest ∧ offset = front.width

namespace Text.Boundary

theorem zero (text : Text) : text.Boundary 0 := ⟨[], text, rfl, rfl⟩

theorem width (text : Text) : text.Boundary text.width :=
  ⟨text, [], (List.append_nil text).symm, rfl⟩

theorem le_width {text : Text} {offset : Nat} (h : text.Boundary offset) :
    offset ≤ text.width := by
  obtain ⟨front, rest, rfl, rfl⟩ := h
  rw [Text.width_append]
  exact Nat.le_add_right _ _

end Text.Boundary

/-! ## Cursors between two texts -/

namespace Cursor

/-- The position behind one text and in front of another. -/
def between (front rest : Text) : Cursor := ⟨front.width, front.getLast?, rest, rest.length⟩

@[simp] theorem between_offset (front rest : Text) : (between front rest).offset = front.width :=
  rfl

@[simp] theorem between_before (front rest : Text) :
    (between front rest).before = front.getLast? := rfl

@[simp] theorem between_rest (front rest : Text) : (between front rest).rest = rest := rfl

@[simp] theorem between_remaining (front rest : Text) :
    (between front rest).remaining = rest.length := rfl

theorem ofLine_eq (line : Text) : ofLine line = between [] line := rfl

@[simp] theorem advance_between (front rest : Text) (c : Char) :
    (between front (c :: rest)).advance c rest = between (front ++ [c]) rest := by
  simp [advance, between]

/-- The cursor stands in the line. -/
def In (line : Text) (cursor : Cursor) : Prop :=
  ∃ front rest, line = front ++ rest ∧ cursor = between front rest

theorem in_ofLine (line : Text) : (ofLine line).In line := ⟨[], line, rfl, rfl⟩

theorem In.advance {line : Text} {cursor : Cursor} {c : Char} {rest : Text}
    (h : cursor.In line) (hrest : cursor.rest = c :: rest) : (cursor.advance c rest).In line := by
  obtain ⟨front, _, rfl, rfl⟩ := h
  rw [between_rest] at hrest
  subst hrest
  exact ⟨front ++ [c], rest, by simp, advance_between ..⟩

theorem In.boundary {line : Text} {cursor : Cursor} (h : cursor.In line) :
    line.Boundary cursor.offset := by
  obtain ⟨front, rest, rfl, rfl⟩ := h
  exact ⟨front, rest, rfl, rfl⟩

/-! ## Searching -/

variable {β : Type}

@[simp] theorem search?_end (test : Cursor → Option β) (front : Text) :
    (between front []).search? test = test (between front []) := rfl

/-- A search goes on to the next position where nothing is found. -/
theorem search?_cons (test : Cursor → Option β) (front : Text) (c : Char) (rest : Text) :
    (between front (c :: rest)).search? test =
      (test (between front (c :: rest))).or ((between (front ++ [c]) rest).search? test) := by
  let here := between front (c :: rest)
  have hhere : test ⟨here.offset, here.before, c :: rest, here.remaining⟩ = test here := rfl
  rw [← advance_between, search?, between_rest, findSome?, hhere]
  cases test here <;> rfl

/-- What is found where a search begins is what the search finds. -/
theorem search?_of_some {test : Cursor → Option β} {front rest : Text} {found : β}
    (h : test (between front rest) = some found) :
    (between front rest).search? test = some found := by
  cases rest with
  | nil => exact h
  | cons c rest => rw [search?_cons, h, Option.some_or]

/-- What a search finds it finds somewhere behind its cursor. -/
theorem search?_eq_some {test : Cursor → Option β} {front rest : Text} {found : β}
    (h : (between front rest).search? test = some found) :
    ∃ gap after, rest = gap ++ after ∧ test (between (front ++ gap) after) = some found := by
  induction rest generalizing front with
  | nil =>
      exact ⟨[], [], rfl, by simpa using h⟩
  | cons c rest ih =>
      rw [search?_cons] at h
      rcases Option.or_eq_some_iff.mp h with h | ⟨_, h⟩
      · exact ⟨[], c :: rest, rfl, by simpa using h⟩
      · obtain ⟨gap, after, rfl, htest⟩ := ih h
        exact ⟨c :: gap, after, rfl, by simpa using htest⟩

end Cursor

/-! ## Matches -/

/-- The match lies in the line: its end is a position of it, and what it reports are
boundaries. -/
structure Match.In (line : Text) (found : Match) : Prop where
  start : line.Boundary found.start
  stop : found.stop.In line
  captures : ∀ capture ∈ found.captures,
    line.Boundary capture.start ∧ line.Boundary capture.stop

theorem Match.In.group {line : Text} {found : Match} (h : found.In line) {index : Nat}
    {start stop : Nat} (hgroup : found.group? index = some (start, stop)) :
    line.Boundary start ∧ line.Boundary stop := by
  unfold Match.group? at hgroup
  split at hgroup
  · cases hgroup
    exact ⟨h.start, h.stop.boundary⟩
  · obtain ⟨capture, hfind, heq⟩ := Option.map_eq_some_iff.mp hgroup
    cases heq
    exact h.captures capture (List.mem_of_find?_eq_some hfind)

namespace Pattern

/-- From a position of the line on, only its positions are reached and captured. -/
def StaysIn (line : Text) (cursor : Cursor) (captures : Captures) (cursor' : Cursor)
    (captures' : Captures) : Prop :=
  cursor.In line → cursor'.In line ∧ ∀ capture ∈ captures', capture ∈ captures ∨
    line.Boundary capture.start ∧ line.Boundary capture.stop

theorem stepwise_staysIn (line : Text) : Stepwise (StaysIn line) where
  stay _ _ hin := ⟨hin, fun _ hmem => Or.inl hmem⟩
  read hrest hin := ⟨hin.advance hrest, fun _ hmem => Or.inl hmem⟩
  record index h hin := by
    obtain ⟨hin', hcaptures⟩ := h hin
    refine ⟨hin', fun capture hmem => ?_⟩
    rcases List.mem_cons.mp hmem with rfl | hmem
    · exact Or.inr ⟨hin.boundary, hin'.boundary⟩
    · exact hcaptures capture hmem
  trans first second hin := by
    obtain ⟨hmiddle, hfirst⟩ := first hin
    obtain ⟨hlast, hsecond⟩ := second hmiddle
    refine ⟨hlast, fun capture hmem => ?_⟩
    rcases hsecond capture hmem with hmem | hboundary
    · exact hfirst capture hmem
    · exact Or.inr hboundary

theorem matchAt_in {line : Text} {p : Pattern} {cursor : Cursor} {found : Match}
    (hin : cursor.In line) (h : p.matchAt cursor = some found) : found.In line := by
  obtain ⟨stop, captures, hstays, _, heq⟩ := Carries.run (stepwise_staysIn line) p false [] ⟨∅, h⟩
  cases heq
  obtain ⟨hstop, hcaptures⟩ := hstays hin
  refine ⟨hin.boundary, hstop, fun capture hmem => ?_⟩
  rcases hcaptures capture hmem with hnone | hboundary
  · cases hnone
  · exact hboundary

end Pattern

end TokenConcord
