import TokenConcord.Grammar.Tokenize
import TokenConcord.Proofs.Pattern.Reads

/-!
# Taking all matches of a line

The number of matches taken from a line is bounded in advance. The bound never cuts a line
short: with each match, twice the characters that remain and the number of open rules fall
together, as long as the outermost rule cannot be closed. So the bound drops out, and taking
all matches means taking the next one, if there is one, and then all behind it.
-/

namespace TokenConcord

/-- The outermost of the open rules. -/
def RuleStack.bottom (stack : RuleStack) : Frame := stack.below.getLastD stack.top

namespace RuleStack

@[simp] theorem bottom_push (stack : RuleStack) (frame : Frame) :
    (stack.push frame).bottom = stack.bottom := List.getLastD_cons ..

@[simp] theorem bottom_pop (stack : RuleStack) : stack.pop.bottom = stack.bottom := by
  obtain ⟨top, below⟩ := stack
  cases below with
  | nil => rfl
  | cons frame below => exact (List.getLastD_cons ..).symm

@[simp] theorem pop_push (stack : RuleStack) (frame : Frame) : (stack.push frame).pop = stack :=
  rfl

@[simp] theorem depth_push (stack : RuleStack) (frame : Frame) :
    (stack.push frame).depth = stack.depth + 1 := rfl

end RuleStack

namespace Grammar

variable (grammar : Grammar)

/-! ## What is found at a position -/

/-- What the preferred aim of a frame finds at a position. -/
def foundAt (frame : Frame) (cursor : Cursor) : Option Found :=
  (grammar.aims frame).findSome? (·.at? cursor)

theorem nextMatch_eq (frame : Frame) (cursor : Cursor) :
    grammar.nextMatch frame cursor = cursor.search? (grammar.foundAt frame) := rfl

/-- What an aim finds covers a text that its pattern reads. A rule consumes some of it. -/
theorem Aim.at?_reads {aim : Aim} {front text : Text} {found : Found}
    (h : aim.at? (.between front text) = some found) :
    ∃ u rest, text = u ++ rest ∧ found.result.start = front.width ∧
      found.result.stop = .between (front ++ u) rest ∧
      ((∃ pattern result, aim = .closer pattern ∧ found = .closer result ∧
          pattern.Reads front u rest) ∨
        ∃ id pattern result, aim = .rule id pattern ∧ found = .rule id result ∧ u ≠ [] ∧
          pattern.Reads front u rest) := by
  cases aim with
  | closer pattern =>
      obtain ⟨result, hmatch, rfl⟩ := Option.map_eq_some_iff.mp h
      obtain ⟨u, rest, rfl, hu, hstart, hstop⟩ := Pattern.matchAt_reads hmatch
      exact ⟨u, rest, rfl, hstart, hstop, Or.inl ⟨pattern, result, rfl, rfl, hu⟩⟩
  | rule id pattern =>
      obtain ⟨result, hmatch, rfl⟩ := Option.map_eq_some_iff.mp h
      obtain ⟨u, rest, rfl, hne, hu, hstart, hstop⟩ := Pattern.nonEmptyAt_reads hmatch
      exact ⟨u, rest, rfl, hstart, hstop, Or.inr ⟨id, pattern, result, rfl, rfl, hne, hu⟩⟩

variable {grammar}

/-- What is found at a position is found next. -/
theorem nextMatch_of_foundAt {frame : Frame} {front text : Text} {found : Found}
    (h : grammar.foundAt frame (.between front text) = some found) :
    grammar.nextMatch frame (.between front text) = some found := Cursor.search?_of_some h

/-- The search goes on behind a character where nothing is found. -/
theorem nextMatch_skip {frame : Frame} {front text : Text} {c : Char}
    (hnone : grammar.foundAt frame (.between front (c :: text)) = none) :
    grammar.nextMatch frame (.between front (c :: text)) =
      grammar.nextMatch frame (.between (front ++ [c]) text) := by
  simp only [nextMatch_eq, Cursor.search?_cons, hnone, Option.none_or]

/-- What is found next is what an aim finds somewhere in the text. -/
theorem exists_aim_of_nextMatch {frame : Frame} {front text : Text} {found : Found}
    (h : grammar.nextMatch frame (.between front text) = some found) :
    ∃ aim ∈ grammar.aims frame, ∃ gap after, text = gap ++ after ∧
      aim.at? (.between (front ++ gap) after) = some found := by
  rw [nextMatch_eq] at h
  obtain ⟨gap, after, htext, hfound⟩ := Cursor.search?_eq_some h
  obtain ⟨aim, hmem, haim⟩ := List.exists_of_findSome?_eq_some hfound
  exact ⟨aim, hmem, gap, after, htext, haim⟩

theorem closer_mem_aims {frame : Frame} {pattern : Pattern}
    (h : Aim.closer pattern ∈ grammar.aims frame) : grammar.closer? frame ≠ none := by
  intro hnone
  unfold aims at h
  rw [hnone] at h
  obtain ⟨id, _, haim⟩ := List.mem_filterMap.mp h
  unfold ruleAim? at haim
  split at haim <;> cases haim

/-! ## What is taken -/

section Take

variable {stack : RuleStack} {run : TokenRun} {id : RuleId} {location : String}
  {scopes contentScopes : List String} {pattern opener closer : Pattern}
  {captures closerCaptures : List CaptureRule} {closerLast : Bool} {patterns : List RuleId}

theorem take_single
    (h : grammar.rules[id]? = some ⟨location, scopes, .single pattern captures⟩) (found : Match) :
    grammar.take stack run (.rule id found) =
      (stack, coverMatch found (stack.top.contentScopes ++ scopes) captures
        (run.coverTo found.start stack.top.contentScopes)) := by
  simp only [take, h, Found.result]

theorem take_span
    (h : grammar.rules[id]? = some ⟨location, scopes,
      .span opener closer captures closerCaptures contentScopes closerLast patterns⟩)
    (found : Match) :
    grammar.take stack run (.rule id found) =
      (stack.push ⟨id, stack.top.contentScopes ++ scopes,
        stack.top.contentScopes ++ scopes ++ contentScopes⟩,
        coverMatch found (stack.top.contentScopes ++ scopes) captures
          (run.coverTo found.start stack.top.contentScopes)) := by
  simp only [take, h, Found.result]

theorem take_closer (found : Match) :
    grammar.take stack run (.closer found) =
      (stack.pop, coverMatch found stack.top.nameScopes (grammar.closerCaptures stack.top)
        (run.coverTo found.start stack.top.contentScopes)) := rfl

end Take

/-! ## The bound -/

/-- The outermost of the open rules cannot be closed. -/
def Grounded (grammar : Grammar) (stack : RuleStack) : Prop :=
  grammar.closer? stack.bottom = none

theorem Grounded.push {stack : RuleStack} (h : grammar.Grounded stack) (frame : Frame) :
    grammar.Grounded (stack.push frame) := by
  rwa [Grounded, RuleStack.bottom_push]

theorem Grounded.take {stack : RuleStack} (h : grammar.Grounded stack) (run : TokenRun)
    (found : Found) : grammar.Grounded (grammar.take stack run found).1 := by
  unfold Grammar.take Grounded
  cases found with
  | closer result =>
      dsimp only
      rwa [RuleStack.bottom_pop]
  | rule id result =>
      dsimp only
      split
      · exact h
      · dsimp only
        rwa [RuleStack.bottom_push]
      · exact h

/-- Taking what is found next moves on over a text. Either a rule is closed, or the text is not
empty and at most one rule is opened. -/
theorem take_progress {stack : RuleStack} (h : grammar.Grounded stack) {front text : Text}
    {found : Found} (hnext : grammar.nextMatch stack.top (.between front text) = some found)
    (run : TokenRun) :
    ∃ u rest, text = u ++ rest ∧ found.result.stop = .between (front ++ u) rest ∧
      ((grammar.take stack run found).1.depth < stack.depth ∨
        u ≠ [] ∧ (grammar.take stack run found).1.depth ≤ stack.depth + 1) := by
  obtain ⟨aim, hmem, gap, after, rfl, haim⟩ := exists_aim_of_nextMatch hnext
  obtain ⟨u, rest, rfl, _, hstop, hread⟩ := Aim.at?_reads haim
  refine ⟨gap ++ u, rest, (List.append_assoc ..).symm, by rw [hstop, List.append_assoc], ?_⟩
  rcases hread with ⟨pattern, result, rfl, rfl, _⟩ | ⟨id, pattern, result, rfl, rfl, hu, _⟩
  · left
    obtain ⟨top, below⟩ := stack
    cases below with
    | nil => exact absurd h (closer_mem_aims hmem)
    | cons frame below => exact Nat.lt_succ_self _
  · right
    refine ⟨List.append_ne_nil_of_right_ne_nil gap hu, ?_⟩
    unfold Grammar.take
    dsimp only
    split <;> simp

/-- Taking what is found next leaves a smaller measure. -/
theorem measure_take {stack : RuleStack} (h : grammar.Grounded stack) {front text : Text}
    {found : Found} (hnext : grammar.nextMatch stack.top (.between front text) = some found)
    (run : TokenRun) :
    ∃ front' rest, found.result.stop = .between front' rest ∧
      2 * rest.length + (grammar.take stack run found).1.depth < 2 * text.length + stack.depth := by
  obtain ⟨u, rest, rfl, hstop, hdepth⟩ := take_progress h hnext run
  refine ⟨_, rest, hstop, ?_⟩
  rw [List.length_append]
  rcases hdepth with hless | ⟨hu, hdepth⟩
  · omega
  · have hlength := List.length_pos_iff.mpr hu
    omega

/-- Any two bounds that are large enough take the same matches. -/
theorem takeMatches_bound {m n : Nat} {stack : RuleStack} (h : grammar.Grounded stack)
    {front text : Text} (run : TokenRun) (hm : 2 * text.length + stack.depth ≤ m)
    (hn : 2 * text.length + stack.depth ≤ n) :
    grammar.takeMatches m (.between front text) stack run =
      grammar.takeMatches n (.between front text) stack run := by
  have hdepth : 0 < stack.depth := Nat.succ_pos _
  induction m generalizing n front text stack run with
  | zero => omega
  | succ m ih =>
      cases n with
      | zero => omega
      | succ n =>
          simp only [takeMatches]
          cases hnext : grammar.nextMatch stack.top (.between front text) with
          | none => rfl
          | some found =>
              obtain ⟨front', rest, hstop, hless⟩ := measure_take h hnext run
              dsimp only
              rw [hstop]
              exact ih (h.take run found) _ (by omega) (by omega) (Nat.succ_pos _)

variable (grammar) in
/-- Take all matches from a cursor on. -/
def takeAll (cursor : Cursor) (stack : RuleStack) (run : TokenRun) : RuleStack × TokenRun :=
  grammar.takeMatches (2 * cursor.remaining + stack.depth) cursor stack run

variable (grammar) in
theorem tokenizeLine_eq (line : Text) (stack : RuleStack) :
    grammar.tokenizeLine line (some stack) =
      let last := grammar.takeAll (.ofLine line) stack .empty
      let scopes := last.1.top.contentScopes
      ⟨(last.2.coverTo line.width scopes).finish scopes, last.1⟩ := rfl

/-- A line of its own is one behind the rules that are open at first. -/
theorem tokenizeLine_initial (line : Text) :
    grammar.tokenizeLine line = grammar.tokenizeLine line (some grammar.initialStack) := rfl

/-! ## One match after another -/

variable {stack : RuleStack} {front text : Text} {run : TokenRun}

/-- Taking all matches means taking the next one and then all behind it. -/
theorem takeAll_of_nextMatch (h : grammar.Grounded stack) {found : Found}
    (hnext : grammar.nextMatch stack.top (.between front text) = some found) :
    grammar.takeAll (.between front text) stack run =
      grammar.takeAll found.result.stop (grammar.take stack run found).1
        (grammar.take stack run found).2 := by
  obtain ⟨front', rest, hstop, hless⟩ := measure_take h hnext run
  have hsteps : 2 * text.length + stack.depth = (2 * text.length + stack.depth - 1) + 1 := by
    omega
  rw [takeAll, Cursor.between_remaining, hsteps, takeMatches, hnext]
  dsimp only
  rw [hstop, takeAll, Cursor.between_remaining]
  exact takeMatches_bound (h.take run found) _ (by omega) (Nat.le_refl _)

theorem takeAll_of_none (hnext : grammar.nextMatch stack.top (.between front text) = none) :
    grammar.takeAll (.between front text) stack run = (stack, run) := by
  have hsteps : 2 * text.length + stack.depth = (2 * text.length + stack.below.length) + 1 := rfl
  rw [takeAll, Cursor.between_remaining, hsteps, takeMatches, hnext]

/-- What is found where the text begins is taken. -/
theorem takeAll_found (h : grammar.Grounded stack) {found : Found}
    (hfound : grammar.foundAt stack.top (.between front text) = some found) :
    grammar.takeAll (.between front text) stack run =
      grammar.takeAll found.result.stop (grammar.take stack run found).1
        (grammar.take stack run found).2 :=
  takeAll_of_nextMatch h (nextMatch_of_foundAt hfound)

/-- A character where nothing is found is passed over. -/
theorem takeAll_skip (h : grammar.Grounded stack) {c : Char}
    (hnone : grammar.foundAt stack.top (.between front (c :: text)) = none) :
    grammar.takeAll (.between front (c :: text)) stack run =
      grammar.takeAll (.between (front ++ [c]) text) stack run := by
  have hnext := nextMatch_skip hnone
  cases hfound : grammar.nextMatch stack.top (.between (front ++ [c]) text) with
  | none => rw [takeAll_of_none hfound, takeAll_of_none (hnext.trans hfound)]
  | some found =>
      rw [takeAll_of_nextMatch h hfound, takeAll_of_nextMatch h (hnext.trans hfound)]

theorem takeAll_end (hnone : grammar.foundAt stack.top (.between front []) = none) :
    grammar.takeAll (.between front []) stack run = (stack, run) :=
  takeAll_of_none (by rwa [nextMatch_eq, Cursor.search?_end])

end Grammar

end TokenConcord
