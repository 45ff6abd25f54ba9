import TokenConcord.Proofs.Grammar.Earliest
import TokenConcord.Proofs.Grammar.OpenRules

/-!
# Rounds over a line

A line is tokenized in rounds. Each of them looks at the frame of the innermost open rule, finds
the next match from a byte offset on, and covers it. Any of this may fail here: the frame, a
rule, or a cut of the line may be missing. With the rules that some lines leave open in a compiled
grammar nothing fails. Each round leaves fewer bytes, or as many bytes and fewer open rules, so
there is a last round, with the same tokens and open rules as `tokenizeLine`.
-/

namespace TokenConcord.Grammar

/-- Where a round begins: the frames of the open rules, the innermost first, the bytes behind
which matches are looked for, and the tokens so far. -/
structure Scan where
  frames : List Frame
  offset : Nat
  run : TokenRun

/-- The frame of the innermost open rule. -/
def innermost : List Frame → Except Fault Frame
  | [] => .error .noFrame
  | frame :: _ => .ok frame

/-- Take what was found into the frames and the tokens. -/
def takeFrom (grammar : Grammar) (scan : Scan) (found : Found) : Except Fault Scan := do
  let frame ← innermost scan.frames
  let run := scan.run.coverTo found.result.start frame.contentScopes
  match found with
  | .closer found =>
      let run := match (← grammar.ruleAt frame.rule).kind with
        | .span _ _ _ captures _ _ _ => coverMatch found frame.nameScopes captures run
        | _ => run
      return ⟨scan.frames.tail, found.stop.offset, run⟩
  | .rule id found =>
      let rule ← grammar.ruleAt id
      let scopes := frame.contentScopes ++ rule.scopes
      match rule.kind with
      | .single _ captures =>
          return ⟨scan.frames, found.stop.offset, coverMatch found scopes captures run⟩
      | .span _ _ captures _ contentScopes _ _ =>
          return ⟨⟨id, scopes, scopes ++ contentScopes⟩ :: scan.frames, found.stop.offset,
            coverMatch found scopes captures run⟩
      | .container _ => return ⟨scan.frames, found.stop.offset, run⟩

/-- One round over a line. There is no further one where no match is found. -/
def round (grammar : Grammar) (line : Text) (scan : Scan) : Except Fault (Option Scan) := do
  let frame ← innermost scan.frames
  match ← grammar.nextFrom line frame scan.offset with
  | none => return none
  | some found => return some (← grammar.takeFrom scan found)

/-- The rounds over a line, from the rules that the line before it left open on. -/
inductive Visited (grammar : Grammar) (line : Text) (stack : RuleStack) : Scan → Prop
  | start : Visited grammar line stack ⟨stack.frames, 0, .empty⟩
  | round {scan next : Scan} : Visited grammar line stack scan →
      grammar.round line scan = .ok (some next) → Visited grammar line stack next

variable {grammar : Grammar} {stack : RuleStack} {front rest : Text} {run : TokenRun}
  {found : Found}

/-! ## One round -/

theorem Nested.grounded (h : grammar.Nested stack) (hclosed : grammar.Closed) :
    grammar.Grounded stack := by
  obtain ⟨location, scopes, patterns, hroot⟩ := hclosed.root
  have hrule : grammar.rules[grammar.rootFrame.rule]? =
      some ⟨location, scopes, .container patterns⟩ := hroot
  rw [Grounded, h.bottom, closer?, hrule]

theorem Nested.top_lt (h : grammar.Nested stack) (hclosed : grammar.Closed) :
    stack.top.rule < grammar.rules.length := by
  have hbottom := h.bottom
  have hchain := h.chain
  obtain ⟨top, below⟩ := stack
  cases below with
  | nil =>
      obtain ⟨location, scopes, patterns, hroot⟩ := hclosed.root
      obtain ⟨hlt, _⟩ := List.getElem?_eq_some_iff.mp hroot
      obtain rfl : top = grammar.rootFrame := hbottom
      exact hlt
  | cons frame below =>
      obtain ⟨⟨_, _, _, _, _, _, _, _, _, _, hrule, _⟩, _⟩ := List.isChain_cons_cons.mp hchain
      exact (List.getElem?_eq_some_iff.mp hrule).1

/-- The end of a rule is only found inside a rule that has one. -/
theorem exists_span_of_nextMatch {frame : Frame} {found : Match}
    (h : grammar.nextMatch frame (.between front rest) = some (.closer found)) :
    ∃ location scopes opener closer captures closerCaptures contentScopes closerLast patterns,
      grammar.rules[frame.rule]? = some ⟨location, scopes,
        .span opener closer captures closerCaptures contentScopes closerLast patterns⟩ := by
  obtain ⟨aim, hmem, gap, after, -, haim⟩ := exists_aim_of_nextMatch h
  cases aim with
  | rule id pattern =>
      obtain ⟨_, _, heq⟩ := Option.map_eq_some_iff.mp haim
      cases heq
  | closer pattern =>
      have hcloser := closer_mem_aims hmem
      unfold closer? at hcloser
      split at hcloser
      next hrule => exact ⟨_, _, _, _, _, _, _, _, _, hrule⟩
      next => exact absurd rfl hcloser

theorem ruleAt_of_getElem? {id : RuleId} {rule : Rule} (h : grammar.rules[id]? = some rule) :
    grammar.ruleAt id = .ok rule := by
  rw [ruleAt, h]

theorem takeFrom_eq (hclosed : grammar.Closed) (h : grammar.Nested stack) (offset : Nat)
    (hnext : grammar.nextMatch stack.top (.between front rest) = some found) :
    grammar.takeFrom ⟨stack.frames, offset, run⟩ found =
      .ok ⟨(grammar.take stack run found).1.frames, found.result.stop.offset,
        (grammar.take stack run found).2⟩ := by
  cases found with
  | closer found =>
      obtain ⟨location, scopes, opener, closer, captures, closerCaptures, contentScopes,
        closerLast, patterns, hrule⟩ := exists_span_of_nextMatch hnext
      -- The root has no end, so there is a frame below.
      have hbelow : stack.frames.tail = stack.pop.frames := by
        have hground := h.grounded hclosed
        obtain ⟨top, below⟩ := stack
        cases below with
        | nil =>
            rw [Grounded, RuleStack.bottom, List.getLastD_nil, closer?, hrule] at hground
            cases hground
        | cons frame below => rfl
      rw [take_closer, Grammar.closerCaptures, hrule, takeFrom, hbelow]
      dsimp only [RuleStack.frames, innermost, bind, Except.bind]
      rw [ruleAt_of_getElem? hrule]
      rfl
  | rule id found =>
      have hid := lt_of_mem_candidates hclosed (h.top_lt hclosed) id
        (mem_candidates_of_nextMatch hnext)
      obtain ⟨⟨location, scopes, kind⟩, _, hget, hrule⟩ := ruleAt_of_lt hid
      rw [takeFrom, take, hget]
      dsimp only [RuleStack.frames, innermost, bind, Except.bind]
      rw [hrule]
      cases kind <;> rfl

/-- A round takes what is found next. -/
theorem round_eq (hclosed : grammar.Closed) (h : grammar.Nested stack) :
    grammar.round (front ++ rest) ⟨stack.frames, front.width, run⟩ =
      .ok ((grammar.nextMatch stack.top (.between front rest)).map fun found =>
        ⟨(grammar.take stack run found).1.frames, found.result.stop.offset,
          (grammar.take stack run found).2⟩) := by
  have hnext := @nextFrom_eq grammar front rest hclosed stack.top (h.top_lt hclosed)
  rw [round, RuleStack.frames, innermost]
  dsimp only [bind, Except.bind]
  rw [hnext]
  cases hfound : grammar.nextMatch stack.top (.between front rest) with
  | none => rfl
  | some found =>
      dsimp only
      rw [← RuleStack.frames, takeFrom_eq hclosed h _ hfound]
      rfl

/-! ## All rounds -/

/-- The bytes that remain and the number of open rules, where a round begins. -/
def Scan.remains (line : Text) (scan : Scan) : Nat × Nat :=
  (line.width - scan.offset, scan.frames.length)

/-- The bytes that remain fall, or they stay as they are and the number of open rules falls. -/
def Scan.Falls (line : Text) (next scan : Scan) : Prop :=
  Prod.Lex (· < ·) (· < ·) (next.remains line) (scan.remains line)

/-- What holds where a round begins: the frames open in one another, matches are looked for from
a cut of the line on, and no more rules were opened than bytes were covered. -/
structure Scan.Stands (grammar : Grammar) (front : Text) (depth : Nat) (stack : RuleStack)
    (scan : Scan) : Prop where
  nested : grammar.Nested stack
  depth_le : stack.depth ≤ depth + front.width
  frames : scan.frames = stack.frames
  offset : scan.offset = front.width

theorem length_frames (stack : RuleStack) : stack.frames.length = stack.depth := rfl

theorem Scan.Stands.round_eq {depth : Nat} {scan : Scan} (hclosed : grammar.Closed)
    (h : scan.Stands grammar front depth stack) :
    grammar.round (front ++ rest) scan =
      .ok ((grammar.nextMatch stack.top (.between front rest)).map fun found =>
        ⟨(grammar.take stack scan.run found).1.frames, found.result.stop.offset,
          (grammar.take stack scan.run found).2⟩) := by
  rw [← Grammar.round_eq hclosed h.nested, ← h.frames, ← h.offset]

/-- Taking what is found leaves less, and all stands as before. -/
theorem Scan.Stands.take {depth : Nat} {scan : Scan} (hclosed : grammar.Closed)
    (h : scan.Stands grammar front depth stack)
    (hnext : grammar.nextMatch stack.top (.between front rest) = some found) :
    ∃ u rest', rest = u ++ rest' ∧ found.result.stop = .between (front ++ u) rest' ∧
      let next : Scan := ⟨(grammar.take stack scan.run found).1.frames,
        found.result.stop.offset, (grammar.take stack scan.run found).2⟩
      next.Stands grammar (front ++ u) depth (grammar.take stack scan.run found).1 ∧
        next.Falls (front ++ rest) scan := by
  obtain ⟨u, rest', rfl, hstop, hdepth⟩ := take_progress (h.nested.grounded hclosed) hnext scan.run
  refine ⟨u, rest', rfl, hstop, ⟨h.nested.take _ hnext, ?_, rfl, by rw [hstop]; rfl⟩, ?_⟩
  · have hle := h.depth_le
    rw [Text.width_append]
    rcases hdepth with hless | ⟨hu, hdepth⟩
    · omega
    · have hpos := Text.width_pos hu
      omega
  · rw [Falls, Prod.lex_def, remains, remains, h.frames, h.offset, hstop]
    simp only [Cursor.between_offset, Text.width_append, length_frames]
    rcases hdepth with hless | ⟨hu, hdepth⟩
    · omega
    · have hpos := Text.width_pos hu
      omega

/-- From each round on the same matches are left to take. -/
theorem Visited.takeAll_eq {line : Text} {scan : Scan} (hclosed : grammar.Closed)
    (h : grammar.Nested stack) (hvisited : grammar.Visited line stack scan) :
    ∃ front rest after, line = front ++ rest ∧ scan.Stands grammar front stack.depth after ∧
      grammar.takeAll (.between front rest) after scan.run =
        grammar.takeAll (.ofLine line) stack .empty := by
  induction hvisited with
  | start => exact ⟨[], line, stack, rfl, ⟨h, Nat.le_add_right _ _, rfl, rfl⟩, rfl⟩
  | round _ hround ih =>
      obtain ⟨front, rest, after, rfl, hstands, htake⟩ := ih
      rw [hstands.round_eq hclosed] at hround
      obtain ⟨found, hnext, rfl⟩ := Option.map_eq_some_iff.mp (Except.ok.inj hround)
      obtain ⟨u, rest', rfl, hstop, hafter, -⟩ := hstands.take hclosed hnext
      refine ⟨front ++ u, rest', _, (List.append_assoc ..).symm, hafter, ?_⟩
      rw [← htake, takeAll_of_nextMatch (hstands.nested.grounded hclosed) hnext, hstop]

theorem Visited.stands {line : Text} {scan : Scan} (hclosed : grammar.Closed)
    (h : grammar.Nested stack) (hvisited : grammar.Visited line stack scan) :
    ∃ front rest after, line = front ++ rest ∧ scan.Stands grammar front stack.depth after := by
  obtain ⟨front, rest, after, hline, hstands, -⟩ := hvisited.takeAll_eq hclosed h
  exact ⟨front, rest, after, hline, hstands⟩

/-- The rounds come to an end, and there they have taken all matches of the line. -/
theorem Visited.exists_last {start : RuleStack} {line : Text} (hclosed : grammar.Closed)
    {depth : Nat} : ∀ {scan : Scan} {front rest : Text} {stack : RuleStack},
    grammar.Visited line start scan → line = front ++ rest →
    scan.Stands grammar front depth stack →
    ∃ last, grammar.Visited line start last ∧ grammar.round line last = .ok none ∧
      last.frames = (grammar.takeAll (.between front rest) stack scan.run).1.frames ∧
      last.run = (grammar.takeAll (.between front rest) stack scan.run).2 ∧
      (grammar.takeAll (.between front rest) stack scan.run).1.depth ≤ depth + line.width
  | scan, front, rest, stack, hvisited, hline, hstands => by
      have hround := @Scan.Stands.round_eq _ _ _ rest _ _ hclosed hstands
      rw [← hline] at hround
      cases hnext : grammar.nextMatch stack.top (.between front rest) with
      | none =>
          rw [hnext] at hround
          rw [takeAll_of_none hnext]
          have hdepth := hstands.depth_le
          refine ⟨scan, hvisited, hround, hstands.frames, rfl, ?_⟩
          rw [hline, Text.width_append]
          dsimp only
          omega
      | some found =>
          rw [hnext] at hround
          obtain ⟨u, rest', hrest, hstop, hafter, hfalls⟩ := hstands.take hclosed hnext
          rw [takeAll_of_nextMatch (hstands.nested.grounded hclosed) hnext, hstop]
          have hline' : line = front ++ u ++ rest' := by rw [hline, hrest, List.append_assoc]
          exact exists_last hclosed (hvisited.round hround) hline' hafter
termination_by scan => scan.remains line
decreasing_by
  rw [hline]
  exact hfalls

/-- Tokenizing a line with the rules that some lines leave open in a compiled grammar comes to an
end, and nothing fails on the way. Where a round begins the outermost frame is that of the root and
the byte offset is a cut of the line. Each round that takes a match leaves fewer bytes, or as many
bytes and fewer open rules. The last one has the tokens and the open rules of the line, which are
one at least, and at most as many more than before as the line has bytes. -/
theorem tokenizeLine_rounds {artifact : Artifact} (hcompile : compile artifact = .ok grammar)
    (h : grammar.Reachable stack) (line : Text) :
    (∀ scan, grammar.Visited line stack scan →
      scan.frames.getLast? = some grammar.rootFrame ∧ line.Boundary scan.offset ∧
      ∃ outcome, grammar.round line scan = .ok outcome ∧
        ∀ next ∈ outcome, Prod.Lex (· < ·) (· < ·)
          (line.width - next.offset, next.frames.length)
          (line.width - scan.offset, scan.frames.length)) ∧
    ∃ last, grammar.Visited line stack last ∧ grammar.round line last = .ok none ∧
      let result := grammar.tokenizeLine line (some stack)
      let scopes := result.stack.top.contentScopes
      last.frames = result.stack.frames ∧
      result.tokens = (last.run.coverTo line.width scopes).finish scopes ∧
      1 ≤ result.stack.depth ∧ result.stack.depth ≤ stack.depth + line.width := by
  have hclosed := compile_closed hcompile
  have hnested := h.nested
  refine ⟨fun scan hvisited => ?_, ?_⟩
  · obtain ⟨front, rest, after, rfl, hstands⟩ := hvisited.stands hclosed hnested
    refine ⟨?_, ⟨front, rest, rfl, hstands.offset⟩, _, hstands.round_eq hclosed, ?_⟩
    · rw [hstands.frames, getLast?_frames, hstands.nested.bottom]
    · intro next hmem
      obtain ⟨found, hnext, rfl⟩ := Option.map_eq_some_iff.mp hmem
      obtain ⟨_, _, _, _, _, hfalls⟩ := hstands.take hclosed hnext
      exact hfalls
  · have hstart : (⟨stack.frames, 0, .empty⟩ : Scan).Stands grammar [] stack.depth stack :=
      ⟨hnested, Nat.le_add_right _ _, rfl, rfl⟩
    obtain ⟨last, hvisited, hlast, hframes, hrun, hdepth⟩ :=
      Visited.exists_last hclosed .start (List.nil_append line).symm hstart
    refine ⟨last, hvisited, hlast, hframes, ?_, Nat.succ_pos _, hdepth⟩
    rw [hrun]
    rfl

/-- The rounds over a line that opens a comment. -/
theorem tokenizeLine_rounds_comment :
    ∃ last, Bundled.compiled.Visited ['/', '*'] Bundled.compiled.initialStack last ∧
      Bundled.compiled.round ['/', '*'] last = .ok none ∧
      last.frames.map (·.rule) = [1, root] := by
  obtain ⟨_, last, hvisited, hlast, hframes, _⟩ :=
    tokenizeLine_rounds Bundled.grammar_eq .initial ['/', '*']
  refine ⟨last, hvisited, hlast, ?_⟩
  rw [hframes]
  decide

end TokenConcord.Grammar
