import TokenConcord.Proofs.Pattern.Reads

/-!
# The preferred way

Where the first way that a run tries comes to an end, it is the match, whatever spots were
visited on the way there: they all lie behind, with more characters left, or are spots of other
choices at the same position. The statements below follow such a way through the pieces of a
pattern: a character, an option that is taken or not, and a loop that takes all it can.
-/

namespace TokenConcord.Pattern

variable {β : Type}

/-! ## Attempts that succeed at once -/

namespace Attempt

/-- The visited spots lie behind: none has fewer than a number of characters left, and the
choices still ahead were not made with as many left. -/
def Behind (remaining : Nat) (ahead : List (List Turn)) (visited : Visited) : Prop :=
  ∀ spot ∈ visited, remaining ≤ spot.remaining ∧
    (spot.remaining = remaining → spot.turns ∉ ahead)

/-- The attempt finds a result whenever the visited spots lie behind. -/
def Yields (attempt : Attempt β) (remaining : Nat) (ahead : List (List Turn)) (found : β) :
    Prop :=
  ∀ visited, Behind remaining ahead visited → (attempt visited).1 = some found

/-- The attempt finds nothing, and all choices it comes to are some at the same position. -/
def Fails (attempt : Attempt β) (remaining : Nat) (touched : List (List Turn)) : Prop :=
  ∀ visited, (attempt visited).1 = none ∧ ∀ spot ∈ (attempt visited).2,
    spot ∈ visited ∨ spot.remaining = remaining ∧ spot.turns ∈ touched

variable {remaining : Nat} {ahead touched : List (List Turn)} {found : β}

theorem Behind.empty : Behind remaining ahead ∅ :=
  fun _ hmem => absurd hmem Std.HashSet.not_mem_empty

theorem Yields.mono {attempt : Attempt β} {ahead' : List (List Turn)}
    (h : attempt.Yields remaining ahead found) (hahead : ∀ turns ∈ ahead, turns ∈ ahead') :
    attempt.Yields remaining ahead' found := by
  intro visited hvisited
  refine h visited fun spot hmem => ⟨(hvisited spot hmem).1, fun hsame hturns => ?_⟩
  exact (hvisited spot hmem).2 hsame (hahead _ hturns)

/-- Behind a character all choices are new. -/
theorem Yields.advance {attempt : Attempt β} {less : Nat} (h : attempt.Yields less ahead found)
    (hless : less < remaining) : attempt.Yields remaining ahead' found := by
  intro visited hvisited
  refine h visited fun spot hmem => ?_
  have hbehind := (hvisited spot hmem).1
  exact ⟨by omega, fun hsame => by omega⟩

theorem fails_failure : Fails (failure : Attempt β) remaining [] :=
  fun _ => ⟨rfl, fun _ hmem => Or.inl hmem⟩

theorem Yields.orElse_left {way other : Unit → Attempt β}
    (h : (way ()).Yields remaining ahead found) :
    (orElse way other).Yields remaining ahead found := by
  intro visited hvisited
  have hway := h visited hvisited
  unfold orElse
  split
  next heq => rw [heq] at hway; exact hway
  next heq => rw [heq] at hway; cases hway

theorem Yields.orElse_right {way other : Unit → Attempt β}
    (hway : (way ()).Fails remaining touched) (h : (other ()).Yields remaining ahead found)
    (hdisjoint : ∀ turns ∈ touched, turns ∉ ahead) :
    (orElse way other).Yields remaining ahead found := by
  intro visited hvisited
  obtain ⟨hnone, hspots⟩ := hway visited
  unfold orElse
  split
  next heq => rw [heq] at hnone; cases hnone
  next visited' heq =>
    rw [heq] at hspots
    refine h visited' fun spot hmem => ?_
    rcases hspots spot hmem with hmem | ⟨hsame, hturns⟩
    · exact hvisited spot hmem
    · exact ⟨Nat.le_of_eq hsame.symm, fun _ => hdisjoint _ hturns⟩

theorem Yields.orElse_failure {way other : Unit → Attempt β} (hway : way () = failure)
    (h : (other ()).Yields remaining ahead found) :
    (orElse way other).Yields remaining ahead found := by
  refine .orElse_right ?_ h fun _ hmem => absurd hmem List.not_mem_nil
  rw [hway]
  exact fails_failure

/-- Where the first way finds nothing, the other one counts, if it succeeds whatever was
visited. -/
theorem Yields.orElse_skip {way other : Unit → Attempt β}
    (hway : ∀ result, ¬ (way ()).Finds result)
    (h : ∀ visited, (other () visited).1 = some found) :
    (orElse way other).Yields remaining ahead found := by
  intro visited _
  unfold orElse
  split
  next result visited' heq => exact absurd ⟨visited, congrArg Prod.fst heq⟩ (hway result)
  next visited' heq => exact h visited'

theorem Fails.orElse {way other : Unit → Attempt β} (hway : (way ()).Fails remaining touched)
    (hother : (other ()).Fails remaining touched) :
    (orElse way other).Fails remaining touched := by
  intro visited
  obtain ⟨hnone, hspots⟩ := hway visited
  unfold Attempt.orElse
  split
  next heq => rw [heq] at hnone; cases hnone
  next visited' heq =>
    rw [heq] at hspots
    obtain ⟨hnone', hspots'⟩ := hother visited'
    refine ⟨hnone', fun spot hmem => ?_⟩
    rcases hspots' spot hmem with hmem | htouched
    · exact hspots spot hmem
    · exact Or.inr htouched

theorem Yields.onceIf {shared : Bool} {turns : List Turn} {attempt : Unit → Attempt β}
    (h : (attempt ()).Yields remaining ahead found) (hturns : turns ∉ ahead) :
    (onceIf shared turns remaining attempt).Yields remaining (turns :: ahead) found := by
  cases shared with
  | false => exact h.mono fun _ hmem => List.mem_cons_of_mem _ hmem
  | true =>
      intro visited hvisited
      have hnew : ⟨turns, remaining⟩ ∉ visited := fun hmem =>
        (hvisited _ hmem).2 rfl List.mem_cons_self
      simp only [Attempt.onceIf, if_true, once, Std.HashSet.contains_eq_false_iff_not_mem.mpr hnew]
      refine h _ fun spot hmem => ?_
      rcases Std.HashSet.mem_insert.mp hmem with hspot | hmem
      · obtain rfl := eq_of_beq hspot
        exact ⟨Nat.le_refl _, fun _ => hturns⟩
      · obtain ⟨hbehind, hahead⟩ := hvisited spot hmem
        exact ⟨hbehind, fun hsame hmem => hahead hsame (List.mem_cons_of_mem _ hmem)⟩

theorem Fails.onceIf {shared : Bool} {turns : List Turn} {attempt : Unit → Attempt β}
    (h : (attempt ()).Fails remaining touched) :
    (onceIf shared turns remaining attempt).Fails remaining (turns :: touched) := by
  intro visited
  cases shared with
  | false =>
      refine ⟨(h visited).1, fun spot hmem => ((h visited).2 spot hmem).imp_right ?_⟩
      exact fun ⟨hsame, hturns⟩ => ⟨hsame, List.mem_cons_of_mem _ hturns⟩
  | true =>
      simp only [Attempt.onceIf, if_true, once]
      split
      · exact ⟨rfl, fun spot hmem => Or.inl hmem⟩
      · refine ⟨(h _).1, fun spot hmem => ?_⟩
        rcases (h _).2 spot hmem with hmem | ⟨hsame, hturns⟩
        · rcases Std.HashSet.mem_insert.mp hmem with hspot | hmem
          · obtain rfl := eq_of_beq hspot
            exact Or.inr ⟨rfl, List.mem_cons_self⟩
          · exact Or.inl hmem
        · exact Or.inr ⟨hsame, List.mem_cons_of_mem _ hturns⟩

end Attempt

open Attempt

/-- A result that a run yields from its beginning is the match. -/
theorem matchAt_of_yields {p : Pattern} {cursor : Cursor} {found : Match}
    (ahead : List (List Turn))
    (h : (p.run false [] cursor [] fun stop captures visited =>
      (some ⟨cursor.offset, stop, captures⟩, visited)).Yields cursor.remaining ahead found) :
    p.matchAt cursor = some found :=
  h ∅ .empty

theorem nonEmptyAt_of_matchAt {p : Pattern} {front u rest : Text} {captures : Captures}
    (hu : u ≠ []) (h : p.matchAt (.between front (u ++ rest)) =
      some ⟨front.width, .between (front ++ u) rest, captures⟩) :
    p.nonEmptyAt (.between front (u ++ rest)) =
      some ⟨front.width, .between (front ++ u) rest, captures⟩ := by
  have hwidth := Text.width_pos hu
  rw [nonEmptyAt, h, Option.filter_some, if_pos]
  simp [Match.nonEmpty, hwidth]

/-! ## Pieces without choices -/

section Pieces

variable {shared : Bool} {turns : List Turn} {front text rest : Text} {c : Char}
  {captures : Captures} {next : Continuation β}

theorem run_set_cons (s : CharSet) :
    (set s).run shared turns (.between front (c :: rest)) captures next =
      if s.mem c then next (.between (front ++ [c]) rest) captures else failure := by
  simp only [run, Cursor.between_rest, Cursor.advance_between]

/-- No character of the set comes next. -/
def Stops (s : CharSet) (text : Text) : Prop := ∀ c, text.head? = some c → s.mem c = false

theorem fails_run_set {s : CharSet} (h : Stops s text) {remaining : Nat} :
    ((set s).run shared turns (.between front text) captures next).Fails remaining [] := by
  cases text with
  | nil => exact fails_failure
  | cons c rest =>
      rw [run_set_cons, h c rfl]
      exact fails_failure

/-! ## Loops -/

variable {ahead : List (List Turn)} {found : β}

/-- A greedy loop over a set takes all characters of the set. -/
theorem yields_runLoop_set {s : CharSet} {shared' : Bool} {u : Text} {bound : Nat}
    (hu : ∀ c ∈ u, s.mem c) (hrest : Stops s rest) (hbound : u.length < bound)
    (hnext : (next (.between (front ++ u) rest) captures).Yields rest.length ahead found)
    (hturns : turns ∉ ahead) :
    (runLoop shared ((set s).run shared') turns true bound (.between front (u ++ rest)) captures
      next).Yields (u ++ rest).length (turns :: ahead) found := by
  induction u generalizing front bound with
  | nil =>
      cases bound with
      | zero => exact absurd hbound (Nat.not_lt_zero _)
      | succ bound =>
          refine Yields.onceIf (.orElse_right (fails_run_set hrest) ?_ fun _ hmem => ?_) hturns
          · simpa using hnext
          · cases hmem
  | cons c u ih =>
      obtain ⟨hc, hu⟩ := List.forall_mem_cons.mp hu
      cases bound with
      | zero => exact absurd hbound (Nat.not_lt_zero _)
      | succ bound =>
          refine Yields.onceIf (.orElse_left ?_) hturns
          rw [List.cons_append, run_set_cons, hc, if_pos rfl]
          refine Yields.advance (ih hu (Nat.lt_of_succ_lt_succ hbound) (by simpa using hnext)) ?_
          exact Nat.lt_succ_self _

theorem yields_run_star_set {s : CharSet} {u : Text} (hu : ∀ c ∈ u, s.mem c)
    (hrest : Stops s rest)
    (hnext : (next (.between (front ++ u) rest) captures).Yields rest.length ahead found)
    (hturns : turns ∉ ahead) :
    ((star (set s) true).run shared turns (.between front (u ++ rest)) captures next).Yields
      (u ++ rest).length (turns :: ahead) found :=
  yields_runLoop_set hu hrest
    (by simp only [Cursor.between_remaining, List.length_append]; omega) hnext hturns

theorem yields_run_plus_set {s : CharSet} {u : Text} (hne : u ≠ []) (hu : ∀ c ∈ u, s.mem c)
    (hrest : Stops s rest)
    (hnext : (next (.between (front ++ u) rest) captures).Yields rest.length ahead found)
    (hturns : turns ∉ ahead) :
    ((plus 0 (set s) true).run shared turns (.between front (u ++ rest)) captures next).Yields
      (u ++ rest).length [] found := by
  cases u with
  | nil => exact absurd rfl hne
  | cons c u =>
      obtain ⟨hc, hu⟩ := List.forall_mem_cons.mp hu
      rw [run, runTimes, List.cons_append, run_set_cons, hc, if_pos rfl]
      refine Yields.advance (yields_runLoop_set hu hrest ?_ (by simpa using hnext) hturns) ?_
      · simp only [Cursor.between_remaining, List.length_append]
        omega
      · exact Nat.lt_succ_self _

/-! ## Optional parts -/

/-- An optional part is read where it can be gone on behind it. -/
theorem yields_run_optional {p : Pattern} {cursor : Cursor}
    (h : (p.run (shared || p.branches) (.body :: .copy 0 :: .right :: turns) cursor captures
      next).Yields cursor.remaining ahead found)
    (hturns : .copy 0 :: .right :: turns ∉ ahead) :
    ((bounded 0 1 p true).run shared turns cursor captures next).Yields cursor.remaining
      ((.copy 0 :: .right :: turns) :: ahead) found := by
  rw [run, runTimes, runUpTo]
  exact Yields.onceIf (.orElse_left h) hturns

/-- An optional part that cannot be read is passed over. -/
theorem yields_run_optional_none {p : Pattern} {cursor : Cursor}
    (hp : ∀ next' : Continuation β, (p.run (shared || p.branches) (.body :: .copy 0 :: .right :: turns) cursor
      captures next').Fails cursor.remaining [])
    (h : (next cursor captures).Yields cursor.remaining ahead found)
    (hturns : .copy 0 :: .right :: turns ∉ ahead) :
    ((bounded 0 1 p true).run shared turns cursor captures next).Yields cursor.remaining
      ((.copy 0 :: .right :: turns) :: ahead) found := by
  rw [run, runTimes, runUpTo]
  refine Yields.onceIf (.orElse_right (hp _) h fun _ hmem => ?_) hturns
  cases hmem

end Pieces

end TokenConcord.Pattern
