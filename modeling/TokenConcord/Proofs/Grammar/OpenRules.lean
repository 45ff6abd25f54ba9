import Mathlib.Data.List.Chain
import TokenConcord.Proofs.Bundled.Compiled
import TokenConcord.Proofs.Grammar.Coverage
import TokenConcord.Proofs.Grammar.References

/-!
# Open rules

The frames of open rules are determined by their rules. The outermost one is the root under the
scope of the grammar. Each other one belongs to a rule with two ends that is tried inside the
frame below it, and its scopes are those inside the frame below with the rule's own behind them.
-/

namespace TokenConcord

/-- The frames of the open rules, the innermost first. -/
def RuleStack.frames (stack : RuleStack) : List Frame := stack.top :: stack.below

namespace Grammar

variable {grammar : Grammar} {stack : RuleStack}

/-- The frame of the root. -/
def rootFrame (grammar : Grammar) : Frame :=
  ⟨root, [grammar.scopeName], [grammar.scopeName]⟩

/-- The frame is one that a rule with two ends leaves open inside another frame. -/
def OpensIn (grammar : Grammar) (frame outer : Frame) : Prop :=
  frame.rule ∈ grammar.candidates outer.rule ∧
    ∃ location scopes opener closer openerCaptures closerCaptures contentScopes closerLast patterns,
      grammar.rules[frame.rule]? = some ⟨location, scopes,
        .span opener closer openerCaptures closerCaptures contentScopes closerLast patterns⟩ ∧
      frame.nameScopes = outer.contentScopes ++ scopes ∧
      frame.contentScopes = frame.nameScopes ++ contentScopes

/-- Frames each of which opens in the one below it, down to the root. -/
structure Nested (grammar : Grammar) (stack : RuleStack) : Prop where
  chain : stack.frames.IsChain grammar.OpensIn
  bottom : stack.bottom = grammar.rootFrame

theorem nested_initialStack : grammar.Nested grammar.initialStack :=
  ⟨.singleton _, rfl⟩

theorem Nested.pop (h : grammar.Nested stack) : grammar.Nested stack.pop := by
  refine ⟨?_, by rw [RuleStack.bottom_pop, h.bottom]⟩
  have hchain := h.chain
  obtain ⟨top, below⟩ := stack
  cases below with
  | nil => exact hchain
  | cons frame below => exact hchain.tail

theorem Nested.push (h : grammar.Nested stack) {frame : Frame}
    (hframe : grammar.OpensIn frame stack.top) : grammar.Nested (stack.push frame) :=
  ⟨.cons_cons hframe h.chain, by rw [RuleStack.bottom_push, h.bottom]⟩

/-! ## What is found -/

/-- A rule that is looked for inside a frame is among those tried there, by its own pattern. -/
theorem ruleAim?_of_aims {frame : Frame} {id : RuleId} {pattern : Pattern}
    (h : .rule id pattern ∈ grammar.aims frame) :
    id ∈ grammar.candidates frame.rule ∧ grammar.ruleAim? id = some (.rule id pattern) := by
  have hrules : .rule id pattern ∈ (grammar.candidates frame.rule).filterMap grammar.ruleAim? := by
    unfold aims at h
    split at h
    · exact h
    · simpa using h
    · simpa using h
  obtain ⟨other, hmem, haim⟩ := List.mem_filterMap.mp hrules
  have hsame : other = id := by
    unfold ruleAim? at haim
    split at haim <;> cases haim <;> rfl
  subst hsame
  exact ⟨hmem, haim⟩

theorem exists_ruleAim?_of_nextMatch {frame : Frame} {front text : Text} {id : RuleId}
    {found : Match} (h : grammar.nextMatch frame (.between front text) = some (.rule id found)) :
    id ∈ grammar.candidates frame.rule ∧ ∃ aim, grammar.ruleAim? id = some aim := by
  obtain ⟨aim, hmem, gap, after, -, haim⟩ := exists_aim_of_nextMatch h
  cases aim with
  | closer pattern =>
      obtain ⟨_, _, heq⟩ := Option.map_eq_some_iff.mp haim
      cases heq
  | rule other pattern =>
      obtain ⟨_, _, heq⟩ := Option.map_eq_some_iff.mp haim
      cases heq
      obtain ⟨hcandidate, haim⟩ := ruleAim?_of_aims hmem
      exact ⟨hcandidate, _, haim⟩

/-- A rule that is found inside a frame is among those tried there. -/
theorem mem_candidates_of_nextMatch {frame : Frame} {front text : Text} {id : RuleId}
    {found : Match} (h : grammar.nextMatch frame (.between front text) = some (.rule id found)) :
    id ∈ grammar.candidates frame.rule := (exists_ruleAim?_of_nextMatch h).1

theorem Nested.take (h : grammar.Nested stack) (run : TokenRun) {front text : Text}
    {found : Found} (hnext : grammar.nextMatch stack.top (.between front text) = some found) :
    grammar.Nested (grammar.take stack run found).1 := by
  cases found with
  | closer found => exact h.pop
  | rule id found =>
      have hmem := mem_candidates_of_nextMatch hnext
      unfold Grammar.take
      dsimp only
      split
      · exact h
      next location scopes opener closer captures closerCaptures contentScopes closerLast patterns hrule =>
        exact h.push ⟨hmem, location, scopes, opener, closer, captures, closerCaptures,
          contentScopes, closerLast, patterns, hrule, rfl, rfl⟩
      · exact h

theorem Reachable.nested (h : grammar.Reachable stack) : grammar.Nested stack := by
  induction h with
  | initial => exact nested_initialStack
  | @line stack line _ ih =>
      have htaken : grammar.Nested (grammar.takeAll (.ofLine line) stack .empty).1 := by
        refine takeMatches_keeps grammar (P := fun stack _ => grammar.Nested stack) ?_
          (Cursor.in_ofLine line) ih
        rintro stack run _ found ⟨front, rest, -, rfl⟩ hstack hnext
        exact hstack.take run hnext
      exact htaken

/-! ## Frames and their rules -/

theorem OpensIn.eq_of_rule {frame other outer : Frame} (h : grammar.OpensIn frame outer)
    (hother : grammar.OpensIn other outer) (hrule : frame.rule = other.rule) : frame = other := by
  obtain ⟨_, _, _, _, _, _, _, _, _, _, hget, hname, hcontent⟩ := h
  obtain ⟨_, _, _, _, _, _, _, _, _, _, hget', hname', hcontent'⟩ := hother
  rw [hrule, hget'] at hget
  cases hget
  obtain ⟨rule, names, contents⟩ := frame
  obtain ⟨rule', names', contents'⟩ := other
  dsimp only at *
  subst hrule hname hname' hcontent hcontent'
  rfl

/-- Frames that open in one another on the same outermost frame are told apart by their rules. -/
theorem isChain_opensIn_inj : ∀ {frames others : List Frame},
    frames.IsChain grammar.OpensIn → others.IsChain grammar.OpensIn →
    frames.getLast? = others.getLast? → frames.map (·.rule) = others.map (·.rule) →
    frames = others
  | [], _, _, _, _, hrules => (List.map_eq_nil_iff.mp hrules.symm).symm
  | _ :: _, [], _, _, _, hrules => absurd hrules (List.cons_ne_nil _ _)
  | [_], [_], _, _, hlast, _ => List.singleton_inj.mpr (Option.some.inj hlast) ▸ rfl
  | [_], _ :: _ :: _, _, _, _, hrules => by simp at hrules
  | _ :: _ :: _, [_], _, _, _, hrules => by simp at hrules
  | frame :: outer :: frames, other :: outer' :: others, h, hothers, hlast, hrules => by
      obtain ⟨hrule, hrules⟩ := List.cons.inj hrules
      obtain ⟨hopens, hchain⟩ := List.isChain_cons_cons.mp h
      obtain ⟨hopens', hchain'⟩ := List.isChain_cons_cons.mp hothers
      simp only [List.getLast?_cons_cons] at hlast
      have hbelow := isChain_opensIn_inj hchain hchain' hlast hrules
      obtain ⟨rfl, rfl⟩ := List.cons.inj hbelow
      rw [hopens.eq_of_rule hopens' hrule]

theorem getLast?_frames (stack : RuleStack) : stack.frames.getLast? = some stack.bottom := by
  rw [RuleStack.frames, RuleStack.bottom, List.getLast?_cons, List.getLastD_eq_getLast?]

theorem frames_injective {stack other : RuleStack} (h : stack.frames = other.frames) :
    stack = other := by
  obtain ⟨top, below⟩ := stack
  obtain ⟨rfl, rfl⟩ := List.cons.inj h
  rfl

theorem Nested.eq_iff {other : RuleStack} (h : grammar.Nested stack)
    (hother : grammar.Nested other) :
    stack = other ↔ stack.frames.map (·.rule) = other.frames.map (·.rule) := by
  refine ⟨fun heq => by rw [heq], fun hrules => frames_injective ?_⟩
  refine isChain_opensIn_inj h.chain hother.chain ?_ hrules
  rw [getLast?_frames, getLast?_frames, h.bottom, hother.bottom]

theorem Nested.eq_initialStack (h : grammar.Nested stack) (hdepth : stack.depth = 1) :
    stack = grammar.initialStack := by
  have hbottom := h.bottom
  obtain ⟨top, below⟩ := stack
  obtain rfl : below = [] := List.length_eq_zero_iff.mp (Nat.succ.inj hdepth)
  exact congrArg (RuleStack.mk · []) hbottom

/-- The frames that lines leave open are determined by their rules. The outermost one is that of
the root, which groups other rules, under the scope of the grammar. Each other one belongs to a
rule with two ends among those tried inside the frame below, its scopes being those inside the
frame below with the rule's own behind them, first the scopes of its name and then those of its
content. Two lists of frames that lines leave open are equal just when their rules are, and
where one frame is open all is as at the start of a document. -/
theorem reachable_frames {artifact : Artifact} (hcompile : compile artifact = .ok grammar)
    (h : grammar.Reachable stack) :
    (∃ location scopes patterns,
      grammar.rules[root]? = some ⟨location, scopes, .container patterns⟩) ∧
    stack.frames.getLast? = some ⟨root, [grammar.scopeName], [grammar.scopeName]⟩ ∧
    stack.frames.IsChain grammar.OpensIn ∧
    (∀ other, grammar.Reachable other →
      (stack = other ↔ stack.frames.map (·.rule) = other.frames.map (·.rule))) ∧
    (stack.depth = 1 → stack = grammar.initialStack) := by
  have hnested := h.nested
  refine ⟨(compile_closed hcompile).root, ?_, hnested.chain, ?_, hnested.eq_initialStack⟩
  · rw [getLast?_frames, hnested.bottom]
    rfl
  · exact fun other hother => hnested.eq_iff hother.nested

/-- A comment that a line leaves open. -/
theorem reachable_frames_comment :
    ∃ stack, Bundled.compiled.Reachable stack ∧ stack.frames.map (·.rule) = [1, root] ∧
      stack.frames.IsChain Bundled.compiled.OpensIn := by
  have hreach : Bundled.compiled.Reachable
      (Bundled.compiled.tokenizeLine ['/', '*'] (some Bundled.compiled.initialStack)).stack :=
    .line _ .initial
  obtain ⟨_, _, hchain, _, _⟩ := reachable_frames Bundled.grammar_eq hreach
  exact ⟨_, hreach, by decide, hchain⟩

end Grammar

end TokenConcord
