import Mathlib.Order.Bounds.Basic
import TokenConcord.Proofs.Pattern.FromOffset

/-!
# The least place of a match

A search that goes on behind each empty match ends, and misses nothing: of the cuts of the line from
its offset on it finds the least one from which the leftmost match consumes a character, and that
match. From all cuts up to where a match starts the leftmost match is the same one, so the cuts in
between can be left out.
-/

namespace TokenConcord

variable {p : Pattern} {front rest line : Text} {place offset : Nat} {found : Match}

/-- A cut of a text from some text in front on is where that ends, or it is behind the next
character. -/
theorem Text.Boundary.eq_or_le {c : Char} (h : (front ++ c :: rest).Boundary place)
    (hle : front.width ≤ place) : place = front.width ∨ (front ++ [c]).width ≤ place := by
  obtain ⟨before, behind, hline, rfl⟩ := h
  rcases List.append_eq_append_iff.mp hline with ⟨gap, rfl, hgap⟩ | ⟨gap, rfl, -⟩
  · cases gap with
    | nil => simp
    | cons d gap =>
        obtain ⟨rfl, -⟩ := List.cons.inj hgap
        simp only [Text.width_append, Text.width_cons, Text.width_nil]
        omega
  · rw [Text.width_append] at hle ⊢
    omega

theorem Text.Boundary.eq_of_le (h : front.Boundary place) (hle : front.width ≤ place) :
    place = front.width := Nat.le_antisymm h.le_width hle

namespace Pattern

/-- From this cut of the line on the leftmost match is this one, and it consumes a character. -/
structure NonEmptyFrom (p : Pattern) (line : Text) (place : Nat) (found : Match) : Prop where
  boundary : line.Boundary place
  leftmost : p.firstFrom line place = .ok (some found)
  nonEmpty : found.nonEmpty = true

/-- The cuts of the line from an offset on from which the leftmost match consumes a character. -/
def nonEmptyPlaces (p : Pattern) (line : Text) (offset : Nat) : Set Nat :=
  {place | offset ≤ place ∧ ∃ found, p.NonEmptyFrom line place found}

/-- The result is the leftmost match from the least of these cuts, if there are any. -/
def FoundAtLeast (p : Pattern) (line : Text) (offset : Nat) : Option Match → Prop
  | none => p.nonEmptyPlaces line offset = ∅
  | some found => ∃ place, IsLeast (p.nonEmptyPlaces line offset) place ∧
      p.firstFrom line place = .ok (some found)

theorem nonEmptyFrom_iff :
    p.NonEmptyFrom (front ++ rest) front.width found ↔
      p.first? (.between front rest) = some found ∧ found.nonEmpty = true := by
  constructor
  · intro h
    have hleftmost := h.leftmost
    rw [firstFrom_width] at hleftmost
    exact ⟨Except.ok.inj hleftmost, h.nonEmpty⟩
  · rintro ⟨hfirst, hnonEmpty⟩
    exact ⟨⟨front, rest, rfl, rfl⟩, by rw [firstFrom_width, hfirst], hnonEmpty⟩

namespace FoundAtLeast

variable {result other : Option Match}

theorem unique (h : p.FoundAtLeast line offset result) (hother : p.FoundAtLeast line offset other) :
    result = other := by
  cases result with
  | none =>
      cases other with
      | none => rfl
      | some found =>
          obtain ⟨place, hleast, -⟩ := hother
          rw [FoundAtLeast] at h
          rw [h] at hleast
          exact hleast.1.elim
  | some found =>
      obtain ⟨place, hleast, hfound⟩ := h
      cases other with
      | none =>
          rw [FoundAtLeast] at hother
          rw [hother] at hleast
          exact hleast.1.elim
      | some found' =>
          obtain ⟨place', hleast', hfound'⟩ := hother
          rw [hleast.unique hleast', hfound'] at hfound
          exact (Except.ok.inj hfound).symm

/-- What is found at the offset itself is found at the least cut. -/
theorem here (h : p.NonEmptyFrom line offset found) : p.FoundAtLeast line offset (some found) :=
  ⟨offset, ⟨⟨Nat.le_refl _, found, h⟩, fun _ hplace => hplace.1⟩, h.leftmost⟩

/-- A cut from which the leftmost match consumes nothing can be left out. -/
theorem later {c : Char} (hline : line = front ++ c :: rest)
    (hnone : ∀ found, ¬ p.NonEmptyFrom line front.width found)
    (h : p.FoundAtLeast line (front ++ [c]).width result) :
    p.FoundAtLeast line front.width result := by
  have hplaces : p.nonEmptyPlaces line front.width =
      p.nonEmptyPlaces line (front ++ [c]).width := by
    ext place
    constructor
    · rintro ⟨hle, found, hfound⟩
      have hboundary := hfound.boundary
      rw [hline] at hboundary
      rcases hboundary.eq_or_le hle with rfl | hbehind
      · exact absurd hfound (hnone found)
      · exact ⟨hbehind, found, hfound⟩
    · rintro ⟨hle, hplace⟩
      rw [Text.width_append] at hle
      exact ⟨Nat.le_of_add_right_le hle, hplace⟩
  cases result with
  | none => exact hplaces.trans h
  | some found =>
      rw [FoundAtLeast, hplaces]
      exact h

/-- Where the leftmost match from the next cut on is also the one from here on, both come to the
same. -/
theorem back {c : Char} (hline : line = front ++ c :: rest)
    (hsame : p.first? (.between front (c :: rest)) = p.first? (.between (front ++ [c]) rest))
    (h : p.FoundAtLeast line (front ++ [c]).width result) :
    p.FoundAtLeast line front.width result := by
  by_cases hhere : ∃ found, p.NonEmptyFrom line front.width found
  · obtain ⟨found, hfound⟩ := hhere
    have hnext : p.NonEmptyFrom line (front ++ [c]).width found := by
      rw [hline] at hfound
      rw [hline, List.append_cons, nonEmptyFrom_iff, ← hsame]
      exact nonEmptyFrom_iff.mp hfound
    rw [h.unique (here hnext)]
    exact here hfound
  · exact h.later hline (not_exists.mp hhere)

end FoundAtLeast

theorem nonEmptyAt_eq_some_iff {cursor : Cursor} :
    p.nonEmptyAt cursor = some found ↔
      p.matchAt cursor = some found ∧ found.nonEmpty = true := Option.filter_eq_some_iff

/-- The leftmost match that consumes a character is the leftmost match from the least cut from which
that one does. -/
theorem firstNonEmpty?_foundAtLeast (p : Pattern) (front rest : Text) :
    p.FoundAtLeast (front ++ rest) front.width (p.firstNonEmpty? (.between front rest)) := by
  induction rest generalizing front with
  | nil =>
      rw [firstNonEmpty?, Cursor.search?_end]
      cases hhere : p.nonEmptyAt (.between front []) with
      | some found => exact .here (nonEmptyFrom_iff.mpr (nonEmptyAt_eq_some_iff.mp hhere))
      | none =>
          apply Set.eq_empty_of_forall_notMem
          rintro place ⟨hle, found, hfound⟩
          have hboundary : front.Boundary place := by simpa using hfound.boundary
          obtain rfl := hboundary.eq_of_le hle
          have hnonEmpty := nonEmptyAt_eq_some_iff.mpr (nonEmptyFrom_iff.mp hfound)
          cases hhere.symm.trans hnonEmpty
  | cons c rest ih =>
      have hbehind := ih (front ++ [c])
      rw [← List.append_cons] at hbehind
      cases hmatch : p.matchAt (.between front (c :: rest)) with
      | none =>
          rw [firstNonEmpty?, Cursor.search?_cons, nonEmptyAt_of_matchAt_none _ hmatch,
            Option.none_or]
          refine hbehind.back rfl ?_
          rw [first?, Cursor.search?_cons, hmatch, Option.none_or]
          rfl
      | some found =>
          have hfirst : p.first? (.between front (c :: rest)) = some found :=
            Cursor.search?_of_some hmatch
          cases hconsumes : found.nonEmpty with
          | true =>
              have hhere := nonEmptyAt_eq_some_iff.mpr ⟨hmatch, hconsumes⟩
              rw [firstNonEmpty?, Cursor.search?_of_some hhere]
              exact .here (nonEmptyFrom_iff.mpr ⟨hfirst, hconsumes⟩)
          | false =>
              have hhere : p.nonEmptyAt (.between front (c :: rest)) = none := by
                rw [nonEmptyAt, hmatch, Option.filter_some, hconsumes]
                rfl
              rw [firstNonEmpty?, Cursor.search?_cons, hhere, Option.none_or]
              refine hbehind.later rfl fun other hother => ?_
              obtain ⟨hsame, hnonEmpty⟩ := nonEmptyFrom_iff.mp hother
              rw [← Option.some.inj (hfirst.symm.trans hsame), hconsumes] at hnonEmpty
              cases hnonEmpty

/-- From a cut of a line on, the search that goes on behind each empty match ends without a failure,
in as many rounds as the line has characters and two more. It finds the leftmost match from the
least cut from which that match consumes a character, and nothing if there is no such cut. -/
theorem skipEmpty_least (p : Pattern) {line : Text} {offset rounds : Nat}
    (h : line.Boundary offset) (hrounds : line.length + 2 ≤ rounds) :
    ∃ cursor, line.cursorAt offset = .ok cursor ∧
      p.skipEmpty line rounds offset = .ok (p.firstNonEmpty? cursor) ∧
      (∀ found, p.firstNonEmpty? cursor = some found ↔
        ∃ place, IsLeast (p.nonEmptyPlaces line offset) place ∧
          p.firstFrom line place = .ok (some found)) ∧
      (p.firstNonEmpty? cursor = none ↔ p.nonEmptyPlaces line offset = ∅) := by
  obtain ⟨front, rest, rfl, rfl⟩ := h
  have hfound := p.firstNonEmpty?_foundAtLeast front rest
  refine ⟨.between front rest, Text.cursorAt_width front rest, ?_, fun found => ?_, ?_⟩
  · apply skipEmpty_width
    rw [List.length_append] at hrounds
    omega
  · constructor
    · intro hsome
      rwa [hsome] at hfound
    · intro hleast
      exact hfound.unique hleast
  · constructor
    · intro hnone
      rwa [hnone] at hfound
    · intro hempty
      exact hfound.unique hempty

/-- Any number of letters, which match as none in front of a wide character and at the end. -/
theorem skipEmpty_least_letters :
    let p : Pattern := .star (.set (.single 'x')) true
    let line : Text := "aéxxé".toList
    let found : Match := ⟨3, .between "aéxx".toList "é".toList, []⟩
    line.Boundary 1 ∧ line.Boundary 5 ∧ line.length + 2 ≤ 7 ∧
      p.skipEmpty line 7 1 = .ok (some found) ∧
      (∃ place, IsLeast (p.nonEmptyPlaces line 1) place ∧
        p.firstFrom line place = .ok (some found)) ∧
      p.skipEmpty line 7 5 = .ok none ∧ p.nonEmptyPlaces line 5 = ∅ := by
  intro p line found
  have hfirst : line.Boundary 1 := ⟨['a'], "éxxé".toList, rfl, rfl⟩
  have hlast : line.Boundary 5 := ⟨"aéxx".toList, ['é'], rfl, rfl⟩
  have hrounds : line.length + 2 ≤ 7 := by decide
  obtain ⟨cursor, hcursor, hskip, hsome, -⟩ := skipEmpty_least p hfirst hrounds
  obtain ⟨cursor', hcursor', hskip', -, hnone⟩ := skipEmpty_least p hlast hrounds
  obtain rfl : Cursor.between ['a'] "éxxé".toList = cursor := Except.ok.inj hcursor
  obtain rfl : Cursor.between "aéxx".toList ['é'] = cursor' := Except.ok.inj hcursor'
  have hfound : p.firstNonEmpty? (.between ['a'] "éxxé".toList) = some found := by decide
  have hnothing : p.firstNonEmpty? (.between "aéxx".toList ['é']) = none := by decide
  rw [hfound] at hskip
  rw [hnothing] at hskip'
  exact ⟨hfirst, hlast, hrounds, hskip, (hsome found).mp hfound, hskip', hnone.mp hnothing⟩

end Pattern

end TokenConcord
