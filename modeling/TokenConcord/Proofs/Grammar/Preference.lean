import TokenConcord.Grammar.Bundled
import TokenConcord.Proofs.Grammar.Earliest

/-!
# Which match is next

Inside a frame each rule that is tried, and the end of the open rule, has one option: its first match
from a position on. Of all options the one that starts earliest is next, and of those that start
together the one tried first. A search that stops as soon as an option starts where the search does
comes to the same as one that looks at all options.
-/

namespace TokenConcord.Grammar

/-! ## Picking -/

/-- The match that is left when each match replaces the best one before it if it starts earlier. -/
def pick (choices : List Found) : Option Found :=
  choices.foldl (fun best choice => earlier best (some choice)) none

/-- A match of a list is preferred: those before it start later, and those behind it no earlier. -/
def IsPreferred (choices : List Found) (best : Found) : Prop :=
  ∃ before after, choices = before ++ best :: after ∧
    (∀ choice ∈ before, best.result.start < choice.result.start) ∧
    ∀ choice ∈ after, best.result.start ≤ choice.result.start

variable {choices : List Found} {best choice : Found}

theorem foldl_earlier (choices : List Found) (best : Option Found) :
    choices.foldl (fun best choice => earlier best (some choice)) best =
      earlier best (pick choices) := by
  induction choices generalizing best with
  | nil => exact (earlier_none best).symm
  | cons choice choices ih =>
      rw [pick, List.foldl_cons, List.foldl_cons, ih, ih (earlier none _), earlier_assoc]
      rfl

theorem pick_append (first second : List Found) :
    pick (first ++ second) = earlier (pick first) (pick second) := by
  rw [pick, List.foldl_append, foldl_earlier second]
  rfl

theorem pick_cons (choice : Found) (choices : List Found) :
    pick (choice :: choices) = earlier (some choice) (pick choices) :=
  pick_append [choice] choices

theorem mem_of_pick (h : pick choices = some best) : best ∈ choices := by
  induction choices with
  | nil => cases h
  | cons choice choices ih =>
      rw [pick_cons] at h
      cases hrest : pick choices with
      | none =>
          rw [hrest, earlier_none] at h
          cases h
          exact List.mem_cons_self
      | some later =>
          rw [hrest, earlier] at h
          split at h
          · exact List.mem_cons_of_mem _ (ih (hrest.trans h))
          · cases h
            exact List.mem_cons_self

theorem pick_eq_none_iff : pick choices = none ↔ choices = [] := by
  constructor
  · intro h
    cases choices with
    | nil => rfl
    | cons choice choices =>
        rw [pick_cons] at h
        cases hrest : pick choices with
        | none => rw [hrest] at h; cases h
        | some later =>
            rw [hrest, earlier] at h
            split at h <;> cases h
  · rintro rfl
    rfl

theorem IsPreferred.le (h : IsPreferred choices best) :
    ∀ choice ∈ choices, best.result.start ≤ choice.result.start := by
  obtain ⟨before, after, rfl, hbefore, hafter⟩ := h
  intro choice hmem
  rcases List.mem_append.mp hmem with hmem | hmem
  · exact Nat.le_of_lt (hbefore choice hmem)
  · rcases List.mem_cons.mp hmem with rfl | hmem
    · exact Nat.le_refl _
    · exact hafter choice hmem

theorem IsPreferred.pick (h : IsPreferred choices best) : pick choices = some best := by
  obtain ⟨before, after, rfl, hbefore, hafter⟩ := h
  have hrest : Grammar.pick (best :: after) = some best := by
    rw [pick_cons]
    exact earlier_eq_left rfl fun choice hpick => hafter choice (mem_of_pick hpick)
  rw [pick_append, hrest]
  exact earlier_eq_right fun choice hpick => hbefore choice (mem_of_pick hpick)

theorem isPreferred_of_pick (h : pick choices = some best) : IsPreferred choices best := by
  induction choices generalizing best with
  | nil => cases h
  | cons choice choices ih =>
      rw [pick_cons] at h
      cases hrest : pick choices with
      | none =>
          rw [hrest, earlier_none] at h
          cases h
          rw [pick_eq_none_iff.mp hrest]
          exact ⟨[], [], rfl, by simp, by simp⟩
      | some later =>
          have hlater := ih hrest
          rw [hrest, earlier] at h
          split at h
          next hless =>
            cases h
            obtain ⟨before, after, rfl, hbefore, hafter⟩ := hlater
            exact ⟨choice :: before, after, rfl, List.forall_mem_cons.mpr ⟨hless, hbefore⟩, hafter⟩
          next hnot =>
            cases h
            refine ⟨[], choices, rfl, by simp, fun other hmem => ?_⟩
            exact Nat.le_trans (Nat.le_of_not_lt hnot) (hlater.le other hmem)

theorem pick_eq_some_iff : pick choices = some best ↔ IsPreferred choices best :=
  ⟨isPreferred_of_pick, IsPreferred.pick⟩

/-! ## Options of a frame -/

/-- What each aim of a frame finds first from a cursor on. Aims that find nothing are left out. -/
def options (grammar : Grammar) (frame : Frame) (cursor : Cursor) : List Found :=
  (grammar.aims frame).filterMap (·.first? cursor)

theorem firstAmong_eq_pick (aims : List Aim) (front rest : Text) :
    firstAmong aims (.between front rest) = pick (aims.filterMap (·.first? (.between front rest))) := by
  induction aims with
  | nil => exact firstAmong_nil front rest
  | cons aim aims ih =>
      rw [← List.singleton_append, firstAmong_append, firstAmong_singleton, ih,
        List.singleton_append, List.filterMap_cons]
      cases aim.first? (.between front rest) with
      | none => rfl
      | some found => exact (pick_cons _ _).symm

variable {grammar : Grammar} {frame : Frame}

/-- From a cut of a line on, the next match inside a frame of a compiled grammar is the preferred one
of the options that the frame has there, the end of its rule first among them, or last where the rule
says so. There is none where there are no options. To stop at a match where the search starts
changes nothing: what is found is what is left when all options are looked at. -/
theorem nextMatch_picks {artifact : Artifact} (hcompile : compile artifact = .ok grammar)
    (hframe : frame.rule < grammar.rules.length) (front rest : Text) :
    let options := grammar.options frame (.between front rest)
    let next := grammar.nextMatch frame (.between front rest)
    grammar.nextFrom (front ++ rest) frame front.width = .ok next ∧
      next = pick options ∧ (next = none ↔ options = []) ∧
      ∀ found, next = some found ↔ IsPreferred options found := by
  have hpick : grammar.nextMatch frame (.between front rest) =
      pick (grammar.options frame (.between front rest)) :=
    firstAmong_eq_pick (grammar.aims frame) front rest
  dsimp only
  refine ⟨nextFrom_eq (compile_closed hcompile) hframe, hpick, ?_, fun found => ?_⟩
  · rw [hpick, pick_eq_none_iff]
  · rw [hpick, pick_eq_some_iff]

/-- Letters inside angle brackets, where the second letter is listed before the two together, and the
end yields to all of them. -/
def letters : Artifact :=
  { scopeName := "source", patterns := [Bundled.see "#Letters"],
    repository := [("Letters",
      { beginPattern := some "<", endPattern := some "ab", applyEndPatternLast := true,
        patterns := [Bundled.word "b" "second", Bundled.word "ab" "both",
          Bundled.word "a" "first"] })] }

/-- Three of four options start where the search does, and the first of the three is next. -/
theorem nextMatch_picks_letters :
    ∃ grammar frame found, compile letters = .ok grammar ∧ frame.rule < grammar.rules.length ∧
      (grammar.options frame (.between ['<'] ['a', 'b'])).map (·.result.start) = [2, 1, 1, 1] ∧
      grammar.nextFrom ['<', 'a', 'b'] frame 1 = .ok (some found) ∧
      IsPreferred (grammar.options frame (.between ['<'] ['a', 'b'])) found ∧
      found = .rule 3 ⟨1, .between ['<', 'a', 'b'] [], []⟩ := by
  let both : Pattern := .seq (.set (.single 'a')) (.set (.single 'b'))
  let grammar : Grammar := ⟨none, "source", [],
    [⟨"grammar", [], .container [1]⟩,
      ⟨"repository.Letters", [], .span (.set (.single '<')) both [] [] [] true [2, 3, 4]⟩,
      ⟨"repository.Letters.patterns[0]", ["second"], .single (.set (.single 'b')) []⟩,
      ⟨"repository.Letters.patterns[1]", ["both"], .single both []⟩,
      ⟨"repository.Letters.patterns[2]", ["first"], .single (.set (.single 'a')) []⟩]⟩
  let frame : Frame := ⟨1, ["source"], ["source"]⟩
  have hcompile : compile letters = .ok grammar := rfl
  have hframe : frame.rule < grammar.rules.length := by decide
  have hnext : grammar.nextMatch frame (.between ['<'] ['a', 'b']) =
      some (.rule 3 ⟨1, .between ['<', 'a', 'b'] [], []⟩) := by decide
  obtain ⟨hfrom, -, -, hpreferred⟩ := nextMatch_picks hcompile hframe ['<'] ['a', 'b']
  rw [hnext] at hfrom
  exact ⟨grammar, frame, _, hcompile, hframe, by decide, hfrom, (hpreferred _).mp hnext, rfl⟩

end TokenConcord.Grammar
