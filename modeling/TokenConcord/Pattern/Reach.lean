import TokenConcord.Pattern.Search

/-!
# What a run reaches

A run only moves forward in its line, and what it captures lies behind where it began.
-/

namespace TokenConcord

/-- The other cursor lies in the same line, with some text between the two. -/
def Cursor.Reaches (cursor other : Cursor) : Prop :=
  ∃ text : Text, cursor.rest = text ++ other.rest ∧
    other.offset = cursor.offset + text.width ∧ other.remaining = cursor.remaining - text.length

namespace Cursor.Reaches

theorem refl (cursor : Cursor) : cursor.Reaches cursor := ⟨[], rfl, rfl, rfl⟩

theorem advance {cursor : Cursor} {c : Char} {rest : Text} (h : cursor.rest = c :: rest) :
    cursor.Reaches (cursor.advance c rest) := ⟨[c], h, rfl, rfl⟩

theorem trans {cursor middle other : Cursor} (first : cursor.Reaches middle)
    (second : middle.Reaches other) : cursor.Reaches other := by
  obtain ⟨text, rest, offset, remaining⟩ := first
  obtain ⟨more, rest', offset', remaining'⟩ := second
  refine ⟨text ++ more, ?_, ?_, ?_⟩
  · rw [rest, rest', List.append_assoc]
  · rw [offset', offset, Text.width_append, Nat.add_assoc]
  · rw [remaining', remaining, List.length_append, Nat.sub_sub]

theorem offset_le {cursor other : Cursor} (h : cursor.Reaches other) :
    cursor.offset ≤ other.offset := by
  obtain ⟨text, _, offset, _⟩ := h
  omega

end Cursor.Reaches

namespace Pattern

variable {β : Type}

/-! ## Results of attempts -/

/-- The attempt finds a result, from some spots that the run came to before. -/
def Attempt.Finds (attempt : Attempt β) (found : β) : Prop :=
  ∃ visited, (attempt visited).1 = some found

namespace Attempt

theorem not_finds_failure (found : β) : ¬ Finds failure found := by
  rintro ⟨visited, h⟩
  cases h

theorem finds_orElse {way other : Unit → Attempt β} {found : β}
    (h : Finds (orElse way other) found) : Finds (way ()) found ∨ Finds (other ()) found := by
  obtain ⟨visited, h⟩ := h
  unfold orElse at h
  split at h
  next result visited' heq => exact Or.inl ⟨visited, by rw [heq]; exact h⟩
  next visited' heq => exact Or.inr ⟨visited', h⟩

theorem finds_prefer {greedy : Bool} {again next : Unit → Attempt β} {found : β}
    (h : Finds (prefer greedy again next) found) :
    Finds (again ()) found ∨ Finds (next ()) found := by
  cases greedy with
  | true => exact finds_orElse h
  | false => exact (finds_orElse h).symm

theorem finds_onceIf {shared : Bool} {turns : List Turn} {remaining : Nat}
    {attempt : Unit → Attempt β} {found : β}
    (h : Finds (onceIf shared turns remaining attempt) found) : Finds (attempt ()) found := by
  cases shared with
  | false => exact h
  | true =>
      obtain ⟨visited, h⟩ := h
      simp only [onceIf, once, if_true] at h
      split at h
      · cases h
      · exact ⟨_, h⟩

end Attempt

/-! ## Relations along a run -/

/-- A relation between a cursor with captures and a later one that holds step by step: of
standing still, of reading a character, of recording a group, and of one way behind another. -/
structure Stepwise (R : Cursor → Captures → Cursor → Captures → Prop) : Prop where
  stay : ∀ cursor captures, R cursor captures cursor captures
  read : ∀ {cursor captures c rest}, cursor.rest = c :: rest →
    R cursor captures (cursor.advance c rest) captures
  record : ∀ {cursor captures cursor' captures'} (index : Nat),
    R cursor captures cursor' captures' →
      R cursor captures cursor' (⟨index, cursor.offset, cursor'.offset⟩ :: captures')
  trans : ∀ {cursor captures cursor' captures' cursor'' captures''},
    R cursor captures cursor' captures' → R cursor' captures' cursor'' captures'' →
      R cursor captures cursor'' captures''

/-- A relation that holds step by step as long as only groups with certain indices are
recorded. -/
structure StepwiseOver (P : Nat → Prop) (R : Cursor → Captures → Cursor → Captures → Prop) :
    Prop where
  stay : ∀ cursor captures, R cursor captures cursor captures
  read : ∀ {cursor captures c rest}, cursor.rest = c :: rest →
    R cursor captures (cursor.advance c rest) captures
  record : ∀ {cursor captures cursor' captures'} (index : Nat), P index →
    R cursor captures cursor' captures' →
      R cursor captures cursor' (⟨index, cursor.offset, cursor'.offset⟩ :: captures')
  trans : ∀ {cursor captures cursor' captures' cursor'' captures''},
    R cursor captures cursor' captures' → R cursor' captures' cursor'' captures'' →
      R cursor captures cursor'' captures''

theorem Stepwise.over {R : Cursor → Captures → Cursor → Captures → Prop} (hR : Stepwise R) :
    StepwiseOver (fun _ => True) R :=
  ⟨hR.stay, hR.read, fun index _ => hR.record index, hR.trans⟩

/-- The indices of the groups of a pattern. -/
def groups : Pattern → List Nat
  | empty => []
  | set _ => []
  | look _ => []
  | seq p q => p.groups ++ q.groups
  | alt p q => p.groups ++ q.groups
  | group index p => index :: p.groups
  | bounded _ _ p _ => p.groups
  | star p _ => p.groups
  | plus _ p _ => p.groups

/-- Whatever the round finds, it finds by going on from somewhere that the relation relates to
where it began. -/
def Carries (R : Cursor → Captures → Cursor → Captures → Prop) (round : Round β) : Prop :=
  ∀ {cursor captures next found}, (round cursor captures next).Finds found →
    ∃ cursor' captures', R cursor captures cursor' captures' ∧
      (next cursor' captures').Finds found

variable {P : Nat → Prop} {R : Cursor → Captures → Cursor → Captures → Prop}

namespace Carries

/-! ### Rounds one behind another -/

section Rounds

variable {first second : Round β}

theorem stay (hR : StepwiseOver P R) :
    Carries R fun cursor captures (next : Continuation β) => next cursor captures :=
  fun h => ⟨_, _, hR.stay _ _, h⟩

theorem andThen (hR : StepwiseOver P R) (hfirst : Carries R first) (hsecond : Carries R second) :
    Carries R fun cursor captures next =>
      first cursor captures fun cursor captures => second cursor captures next := by
  intro cursor captures next found h
  obtain ⟨_, _, before, h⟩ := hfirst h
  obtain ⟨_, _, behind, h⟩ := hsecond h
  exact ⟨_, _, hR.trans before behind, h⟩

variable (R) in
theorem choice (hfirst : Carries R first) (hsecond : Carries R second) (shared : Bool)
    (turns : List Turn) (greedy : Bool) :
    Carries R fun cursor captures next =>
      Attempt.onceIf shared turns cursor.remaining fun _ =>
        Attempt.prefer greedy (fun _ => first cursor captures next)
          (fun _ => second cursor captures next) := by
  intro cursor captures next found h
  rcases Attempt.finds_prefer (Attempt.finds_onceIf h) with h | h
  · exact hfirst h
  · exact hsecond h

end Rounds

/-! ### Repetitions -/

section Repetitions

variable {round : List Turn → Round β}

theorem runTimes (hR : StepwiseOver P R) (hround : ∀ turns, Carries R (round turns))
    (turns : List Turn) (count : Nat) : Carries R (runTimes round turns count) := by
  induction count with
  | zero => exact stay hR
  | succ count ih => exact andThen hR (hround _) ih

theorem runUpTo (hR : StepwiseOver P R) (hround : ∀ turns, Carries R (round turns))
    (shared : Bool) (turns : List Turn) (greedy : Bool) (count : Nat) :
    Carries R (runUpTo shared round turns greedy count) := by
  induction count with
  | zero => exact stay hR
  | succ count ih => exact choice R (andThen hR (hround _) ih) (stay hR) _ _ _

theorem runLoop (hR : StepwiseOver P R) (hround : ∀ turns, Carries R (round turns))
    (shared : Bool) (turns : List Turn) (greedy : Bool) (bound : Nat) :
    Carries R (runLoop shared round turns greedy bound) := by
  induction bound with
  | zero => exact fun h => absurd h (Attempt.not_finds_failure _)
  | succ bound ih => exact choice R (andThen hR (hround _) ih) (stay hR) _ _ _

end Repetitions

/-- Every result of a run comes from going on somewhere that a relation relates to its beginning,
if the relation is stepwise over the groups of the pattern. -/
theorem runOver (hR : StepwiseOver P R) (p : Pattern) (hp : ∀ index ∈ p.groups, P index)
    (shared : Bool) (turns : List Turn) : Carries R (p.run (β := β) shared turns) := by
  induction p generalizing shared turns with
  | empty => exact stay hR
  | set s =>
      intro cursor captures next found h
      cases hrest : cursor.rest with
      | nil =>
          simp only [Pattern.run, hrest] at h
          exact absurd h (Attempt.not_finds_failure _)
      | cons c rest =>
          simp only [Pattern.run, hrest] at h
          split at h
          · exact ⟨_, _, hR.read hrest, h⟩
          · exact absurd h (Attempt.not_finds_failure _)
  | look assertion =>
      intro cursor captures next found h
      simp only [Pattern.run] at h
      split at h
      · exact ⟨_, _, hR.stay _ _, h⟩
      · exact absurd h (Attempt.not_finds_failure _)
  | seq p q ihp ihq =>
      obtain ⟨hp, hq⟩ := List.forall_mem_append.mp hp
      exact andThen hR (ihp hp _ _) (ihq hq _ _)
  | alt p q ihp ihq =>
      obtain ⟨hp, hq⟩ := List.forall_mem_append.mp hp
      exact choice R (ihp hp _ _) (ihq hq _ _) _ _ true
  | group index p ih =>
      intro cursor captures next found h
      obtain ⟨hindex, hp⟩ := List.forall_mem_cons.mp hp
      obtain ⟨_, _, inside, h⟩ := ih hp _ _ h
      exact ⟨_, _, hR.record index hindex inside, h⟩
  | bounded least further p greedy ih =>
      exact andThen hR (runTimes hR (ih hp _) _ _) (runUpTo hR (ih hp _) _ _ _ _)
  | star p greedy ih =>
      intro cursor captures next found h
      exact runLoop hR (ih hp _) _ _ _ _ h
  | plus before p greedy ih =>
      -- The loop is bounded by the cursor that it starts at.
      apply andThen hR (runTimes hR (ih hp _) _ _)
      apply andThen hR (ih hp _ _)
      intro cursor captures next found h
      exact runLoop hR (ih hp _) _ _ _ _ h

theorem run (hR : Stepwise R) (p : Pattern) (shared : Bool) (turns : List Turn) :
    Carries R (p.run (β := β) shared turns) :=
  runOver hR.over p (fun _ _ => trivial) shared turns

end Carries

/-! ## Matches -/

/-- What was captured between two cursors of a line lies between them. -/
def CapturedBetween (cursor : Cursor) (captures : Captures) (cursor' : Cursor)
    (captures' : Captures) : Prop :=
  cursor.Reaches cursor' ∧ ∀ capture ∈ captures', capture ∈ captures ∨
    cursor.offset ≤ capture.start ∧ capture.start ≤ capture.stop ∧
      capture.stop ≤ cursor'.offset

theorem stepwise_capturedBetween : Stepwise CapturedBetween where
  stay cursor captures := ⟨.refl cursor, fun _ hmem => Or.inl hmem⟩
  read hrest := ⟨.advance hrest, fun _ hmem => Or.inl hmem⟩
  record index h := by
    refine ⟨h.1, fun capture hmem => ?_⟩
    rcases List.mem_cons.mp hmem with rfl | hmem
    · exact Or.inr ⟨Nat.le_refl _, h.1.offset_le, Nat.le_refl _⟩
    · exact h.2 capture hmem
  trans first second := by
    have forward := first.1.offset_le
    have onward := second.1.offset_le
    refine ⟨first.1.trans second.1, fun capture hmem => ?_⟩
    rcases second.2 capture hmem with hmem | hwithin
    · rcases first.2 capture hmem with hmem | hwithin
      · exact Or.inl hmem
      · exact Or.inr ⟨hwithin.1, hwithin.2.1, by omega⟩
    · exact Or.inr ⟨by omega, hwithin.2.1, hwithin.2.2⟩

/-- A match begins at its cursor and ends in the same line, and its captures lie inside. -/
theorem matchAt_within {p : Pattern} {cursor : Cursor} {found : Match}
    (h : p.matchAt cursor = some found) :
    found.start = cursor.offset ∧ CapturedBetween cursor [] found.stop found.captures := by
  obtain ⟨stop, captures, between, _, heq⟩ :=
    Carries.run stepwise_capturedBetween p false [] ⟨∅, h⟩
  cases heq
  exact ⟨rfl, between⟩

end Pattern

end TokenConcord
