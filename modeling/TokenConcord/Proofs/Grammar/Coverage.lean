import TokenConcord.Proofs.Grammar.TakeAll
import TokenConcord.Proofs.Grammar.Tiling

/-!
# Tokens cover their line

Whatever the grammar and the rules left open, the tokens of a line lie end to end from its
start to its end, between characters, and all of them stand under the scope of the grammar.
The scope is kept as an invariant of the rules left open: both scope lists of each frame
begin with it.
-/

namespace TokenConcord

/-- The scopes begin with the one of the grammar. -/
def Rooted (root : String) (scopes : List String) : Prop := scopes.head? = some root

theorem Rooted.append {root : String} {scopes : List String} (h : Rooted root scopes)
    (more : List String) : Rooted root (scopes ++ more) := by
  unfold Rooted at *
  rw [List.head?_append, h]
  rfl

/-- A token of a line under the scope of the grammar. -/
structure ScopedToken.Sound (line : Text) (root : String) (token : ScopedToken) : Prop where
  unmerged : token.merged = false
  rooted : Rooted root token.scopes
  start : line.Boundary token.start
  stop : line.Boundary token.stop

/-! ## Runs of tokens -/

namespace TokenRun

/-- The tokens of the run cover the line up to where it stops, and none of them is empty. -/
structure Sound (line : Text) (root : String) (run : TokenRun) : Prop where
  tiles : Tiles 0 run.tokens run.stop
  stop : line.Boundary run.stop
  tokens : ∀ token ∈ run.tokens, token.start < token.stop ∧ token.Sound line root

variable {line : Text} {root : String} {run : TokenRun}

theorem sound_empty (line : Text) (root : String) : empty.Sound line root :=
  ⟨rfl, .zero line, fun _ hmem => absurd hmem List.not_mem_nil⟩

theorem Sound.coverTo (h : run.Sound line root) {stop : Nat} (hstop : line.Boundary stop)
    {scopes : List String} (hscopes : Rooted root scopes) :
    (run.coverTo stop scopes).Sound line root := by
  unfold TokenRun.coverTo
  split
  · exact h
  next hlt =>
    have hpos : run.stop < stop := Nat.lt_of_not_le hlt
    refine ⟨Tiles.append_iff.mpr ⟨run.stop, h.tiles, rfl, Nat.le_of_lt hpos, rfl⟩, hstop, ?_⟩
    intro token hmem
    rcases List.mem_append.mp hmem with hmem | hmem
    · exact h.tokens token hmem
    · rw [List.mem_singleton] at hmem
      subst hmem
      exact ⟨hpos, rfl, hscopes, h.stop, hstop⟩

/-- A run over an empty line has no tokens yet. -/
theorem Sound.tokens_eq_nil (h : run.Sound [] root) : run.tokens = [] := by
  cases htokens : run.tokens with
  | nil => rfl
  | cons token tokens =>
      have hmem : token ∈ run.tokens := by rw [htokens]; exact List.mem_cons_self
      have hpos := (h.tokens token hmem).1
      have hbound := (h.tiles.mem_bounds hmem).2
      have hwidth := h.stop.le_width
      simp only [Text.width_nil] at hwidth
      omega

theorem le_stop_coverTo (run : TokenRun) (stop : Nat) (scopes : List String) :
    stop ≤ (run.coverTo stop scopes).stop := by
  unfold TokenRun.coverTo
  split
  · assumption
  · exact Nat.le_refl _

end TokenRun

/-! ## Matches -/

section Captures

variable {line : Text} {root : String} {run : TokenRun} {found : Match} {base : List String}

/-- An open capture ends between characters of the line, under the scope of the grammar. -/
def OpenCapture.Sound (line : Text) (root : String) (capture : OpenCapture) : Prop :=
  line.Boundary capture.stop ∧ Rooted root capture.scopes

theorem closeCaptures_sound {captures : List OpenCapture} (start : Nat)
    (hcaptures : ∀ capture ∈ captures, capture.Sound line root) (h : run.Sound line root) :
    (∀ capture ∈ (closeCaptures start captures run).1, capture.Sound line root) ∧
      (closeCaptures start captures run).2.Sound line root := by
  induction captures generalizing run with
  | nil => exact ⟨hcaptures, h⟩
  | cons capture outer ih =>
      rw [closeCaptures]
      obtain ⟨⟨hstop, hscopes⟩, houter⟩ := List.forall_mem_cons.mp hcaptures
      split
      · exact ih houter (h.coverTo hstop hscopes)
      · exact ⟨hcaptures, h⟩

theorem foldl_coverTo_sound {captures : List OpenCapture}
    (hcaptures : ∀ capture ∈ captures, capture.Sound line root) (h : run.Sound line root) :
    (captures.foldl (fun run capture => run.coverTo capture.stop capture.scopes) run).Sound
      line root := by
  induction captures generalizing run with
  | nil => exact h
  | cons capture captures ih =>
      obtain ⟨⟨hstop, hscopes⟩, hothers⟩ := List.forall_mem_cons.mp hcaptures
      exact ih hothers (h.coverTo hstop hscopes)

theorem coverCaptures_sound (hfound : found.In line) (hbase : Rooted root base)
    {rules : List CaptureRule} {captures : List OpenCapture}
    (hcaptures : ∀ capture ∈ captures, capture.Sound line root) (h : run.Sound line root) :
    (coverCaptures found base rules captures run).Sound line root := by
  induction rules generalizing captures run with
  | nil => exact foldl_coverTo_sound hcaptures h
  | cons rule rules ih =>
      rw [coverCaptures]
      split
      · exact ih hcaptures h
      next start stop hgroup =>
        split
        · exact ih hcaptures h
        · obtain ⟨hopen, hrun⟩ := closeCaptures_sound start hcaptures h
          obtain ⟨hstart, hstop⟩ := hfound.group hgroup
          have hscopes : Rooted root
              (((closeCaptures start captures run).1.head?.map (·.scopes)).getD base) := by
            cases hhead : (closeCaptures start captures run).1.head? with
            | none => exact hbase
            | some capture => exact (hopen capture (List.mem_of_head? hhead)).2
          refine ih (List.forall_mem_cons.mpr ⟨⟨hstop, hscopes.append _⟩, hopen⟩) ?_
          exact hrun.coverTo hstart hscopes

theorem coverMatch_sound (hfound : found.In line) (hbase : Rooted root base)
    (rules : List CaptureRule) (h : run.Sound line root) :
    (coverMatch found base rules run).Sound line root := by
  have hall := hbase.append ((rules.filter (·.index == 0)).flatMap (·.scopes))
  exact (coverCaptures_sound hfound hall (fun _ hmem => absurd hmem List.not_mem_nil) h).coverTo
    hfound.stop.boundary hall

end Captures

/-! ## How far a match covers -/

section Bound

variable {bound : Nat} {run : TokenRun} {found : Match}

theorem TokenRun.coverTo_stop_le (hrun : run.stop ≤ bound) {stop : Nat} (hstop : stop ≤ bound)
    (scopes : List String) : (run.coverTo stop scopes).stop ≤ bound := by
  unfold TokenRun.coverTo
  split
  · exact hrun
  · exact hstop

theorem closeCaptures_stop_le {captures : List OpenCapture} (start : Nat)
    (hcaptures : ∀ capture ∈ captures, capture.stop ≤ bound) (hrun : run.stop ≤ bound) :
    (∀ capture ∈ (closeCaptures start captures run).1, capture.stop ≤ bound) ∧
      (closeCaptures start captures run).2.stop ≤ bound := by
  induction captures generalizing run with
  | nil => exact ⟨hcaptures, hrun⟩
  | cons capture outer ih =>
      rw [closeCaptures]
      obtain ⟨hstop, houter⟩ := List.forall_mem_cons.mp hcaptures
      split
      · exact ih houter (TokenRun.coverTo_stop_le hrun hstop _)
      · exact ⟨hcaptures, hrun⟩

theorem coverCaptures_stop_le
    (hgroup : ∀ index start stop, found.group? index = some (start, stop) →
      start ≤ bound ∧ stop ≤ bound)
    (base : List String) {rules : List CaptureRule} {captures : List OpenCapture}
    (hcaptures : ∀ capture ∈ captures, capture.stop ≤ bound) (hrun : run.stop ≤ bound) :
    (coverCaptures found base rules captures run).stop ≤ bound := by
  induction rules generalizing captures run with
  | nil =>
      rw [coverCaptures]
      induction captures generalizing run with
      | nil => exact hrun
      | cons capture captures ih =>
          obtain ⟨hstop, hothers⟩ := List.forall_mem_cons.mp hcaptures
          exact ih hothers (TokenRun.coverTo_stop_le hrun hstop _)
  | cons rule rules ih =>
      rw [coverCaptures]
      split
      · exact ih hcaptures hrun
      next start stop hfound =>
        split
        · exact ih hcaptures hrun
        · obtain ⟨hopen, hclosed⟩ := closeCaptures_stop_le start hcaptures hrun
          obtain ⟨hstart, hstop⟩ := hgroup _ _ _ hfound
          refine ih (List.forall_mem_cons.mpr ⟨hstop, hopen⟩) ?_
          exact TokenRun.coverTo_stop_le hclosed hstart _

/-- A match covers nothing behind its end. -/
theorem coverMatch_stop_le {p : Pattern} {cursor : Cursor} (h : p.matchAt cursor = some found)
    (hrun : run.stop ≤ found.stop.offset) (base : List String) (rules : List CaptureRule) :
    (coverMatch found base rules run).stop ≤ found.stop.offset := by
  obtain ⟨hstart, hreach, hcaptures⟩ := Pattern.matchAt_within h
  have hgroup : ∀ index start stop, found.group? index = some (start, stop) →
      start ≤ found.stop.offset ∧ stop ≤ found.stop.offset := by
    intro index start stop hfound
    unfold Match.group? at hfound
    split at hfound
    · cases hfound
      rw [hstart]
      exact ⟨hreach.offset_le, Nat.le_refl _⟩
    · obtain ⟨capture, hfind, heq⟩ := Option.map_eq_some_iff.mp hfound
      cases heq
      rcases hcaptures capture (List.mem_of_find?_eq_some hfind) with hnone | ⟨_, hle, hstop⟩
      · cases hnone
      · exact ⟨Nat.le_trans hle hstop, hstop⟩
  refine TokenRun.coverTo_stop_le ?_ (Nat.le_refl _) _
  exact coverCaptures_stop_le hgroup _ (fun _ hmem => absurd hmem List.not_mem_nil) hrun

end Bound

/-! ## Open rules -/

/-- Both scope lists of the frame begin with the scope of the grammar. -/
def Frame.Rooted (root : String) (frame : Frame) : Prop :=
  TokenConcord.Rooted root frame.nameScopes ∧ TokenConcord.Rooted root frame.contentScopes

/-- All open rules stand under the scope of the grammar. -/
def RuleStack.Rooted (root : String) (stack : RuleStack) : Prop :=
  ∀ frame ∈ stack.top :: stack.below, frame.Rooted root

theorem RuleStack.Rooted.pop {root : String} {stack : RuleStack} (h : stack.Rooted root) :
    stack.pop.Rooted root := by
  obtain ⟨top, below⟩ := stack
  cases below with
  | nil => exact h
  | cons frame below => exact fun other hmem => h other (List.mem_cons_of_mem _ hmem)

theorem RuleStack.Rooted.push {root : String} {stack : RuleStack} (h : stack.Rooted root)
    {frame : Frame} (hframe : frame.Rooted root) : (stack.push frame).Rooted root :=
  List.forall_mem_cons.mpr ⟨hframe, h⟩

namespace Grammar

variable (grammar : Grammar) {line : Text} {stack : RuleStack} {run : TokenRun}

theorem initialStack_rooted :
    grammar.initialStack.Rooted grammar.scopeName := by
  intro frame hmem
  rw [List.mem_singleton.mp hmem]
  exact ⟨rfl, rfl⟩

/-- Whatever is found next lies in the line. -/
theorem nextMatch_in {frame : Frame} {cursor : Cursor} {found : Found} (hin : cursor.In line)
    (h : grammar.nextMatch frame cursor = some found) : found.result.In line := by
  obtain ⟨front, rest, rfl, rfl⟩ := hin
  obtain ⟨aim, _, gap, after, rfl, haim⟩ := exists_aim_of_nextMatch h
  have hin : (Cursor.between (front ++ gap) after).In (front ++ (gap ++ after)) :=
    ⟨front ++ gap, after, (List.append_assoc ..).symm, rfl⟩
  cases aim with
  | closer pattern =>
      obtain ⟨result, hmatch, rfl⟩ := Option.map_eq_some_iff.mp haim
      exact Pattern.matchAt_in hin hmatch
  | rule id pattern =>
      obtain ⟨result, hmatch, rfl⟩ := Option.map_eq_some_iff.mp haim
      exact Pattern.matchAt_in hin (Option.filter_eq_some_iff.mp hmatch).1

/-- Taking a match keeps all tokens and open rules under the scope of the grammar. -/
theorem take_sound {root : String} {found : Found} (hfound : found.result.In line)
    (hstack : stack.Rooted root) (hrun : run.Sound line root) :
    (grammar.take stack run found).1.Rooted root ∧
      (grammar.take stack run found).2.Sound line root := by
  obtain ⟨hname, hcontent⟩ := hstack stack.top List.mem_cons_self
  have hgap := hrun.coverTo hfound.start hcontent
  unfold take
  cases found with
  | closer found => exact ⟨hstack.pop, coverMatch_sound hfound hname _ hgap⟩
  | rule id found =>
      dsimp only [Found.result] at hgap ⊢
      split
      next scopes pattern captures _ =>
        exact ⟨hstack, coverMatch_sound hfound (hcontent.append scopes) captures hgap⟩
      next scopes opener closer captures closerCaptures contentScopes closerLast patterns _ =>
        have hscopes := hcontent.append scopes
        exact ⟨hstack.push ⟨hscopes, hscopes.append contentScopes⟩,
          coverMatch_sound hfound hscopes captures hgap⟩
      · exact ⟨hstack, hgap⟩

/-- Taking what an aim finds covers nothing behind its end. -/
theorem take_stop_le {aim : Aim} {cursor : Cursor} {found : Found}
    (haim : aim.at? cursor = some found) (hrun : run.stop ≤ cursor.offset) :
    (grammar.take stack run found).2.stop ≤ found.result.stop.offset := by
  obtain ⟨pattern, hmatch⟩ : ∃ pattern : Pattern, pattern.matchAt cursor = some found.result := by
    cases aim with
    | closer pattern =>
        obtain ⟨result, hmatch, rfl⟩ := Option.map_eq_some_iff.mp haim
        exact ⟨pattern, hmatch⟩
    | rule id pattern =>
        obtain ⟨result, hmatch, rfl⟩ := Option.map_eq_some_iff.mp haim
        exact ⟨pattern, (Option.filter_eq_some_iff.mp hmatch).1⟩
  obtain ⟨hstart, hreach, _⟩ := Pattern.matchAt_within hmatch
  have hstart_le : found.result.start ≤ found.result.stop.offset := by
    rw [hstart]
    exact hreach.offset_le
  have hgap : (run.coverTo found.result.start stack.top.contentScopes).stop ≤
      found.result.stop.offset :=
    TokenRun.coverTo_stop_le (Nat.le_trans hrun hreach.offset_le) hstart_le _
  unfold take
  cases found with
  | closer found => exact coverMatch_stop_le hmatch hgap _ _
  | rule id found =>
      dsimp only [Found.result] at hmatch hgap ⊢
      split
      · exact coverMatch_stop_le hmatch hgap _ _
      · exact coverMatch_stop_le hmatch hgap _ _
      · exact hgap

variable {grammar} in
/-- What is found where the text begins is taken, and covers nothing behind its end. -/
theorem takeAll_onward {front text : Text} {found : Found} (h : grammar.Grounded stack)
    (hrun : run.stop ≤ front.width)
    (hfound : grammar.foundAt stack.top (.between front text) = some found) :
    ∃ run', run'.stop ≤ found.result.stop.offset ∧
      grammar.takeAll (.between front text) stack run =
        grammar.takeAll found.result.stop (grammar.take stack run found).1 run' := by
  obtain ⟨aim, _, haim⟩ := List.exists_of_findSome?_eq_some hfound
  exact ⟨_, take_stop_le grammar haim hrun, takeAll_found h hfound⟩

/-- What each match taken from a line keeps, all matches keep. -/
theorem takeMatches_keeps {P : RuleStack → TokenRun → Prop}
    (hstep : ∀ stack run cursor found, cursor.In line → P stack run →
      grammar.nextMatch stack.top cursor = some found →
        P (grammar.take stack run found).1 (grammar.take stack run found).2)
    {steps : Nat} {cursor : Cursor} (hin : cursor.In line) (h : P stack run) :
    P (grammar.takeMatches steps cursor stack run).1
      (grammar.takeMatches steps cursor stack run).2 := by
  induction steps generalizing cursor stack run with
  | zero => exact h
  | succ steps ih =>
      rw [takeMatches]
      split
      · exact h
      next found hnext =>
        exact ih (nextMatch_in grammar hin hnext).stop (hstep _ _ _ _ hin h hnext)

theorem takeMatches_sound {root : String} {steps : Nat} {cursor : Cursor} (hin : cursor.In line)
    (hstack : stack.Rooted root) (hrun : run.Sound line root) :
    (grammar.takeMatches steps cursor stack run).1.Rooted root ∧
      (grammar.takeMatches steps cursor stack run).2.Sound line root := by
  refine takeMatches_keeps grammar (P := fun stack run => stack.Rooted root ∧ run.Sound line root)
    ?_ hin ⟨hstack, hrun⟩
  intro stack run cursor found hin h hnext
  exact take_sound grammar (nextMatch_in grammar hin hnext) h.1 h.2

theorem takeAll_sound {root : String} (hstack : stack.Rooted root) (line : Text) :
    (grammar.takeAll (.ofLine line) stack .empty).1.Rooted root ∧
      (grammar.takeAll (.ofLine line) stack .empty).2.Sound line root :=
  takeMatches_sound grammar (Cursor.in_ofLine line) hstack (TokenRun.sound_empty line root)

/-- The rules that some lines, read one after another, leave open. -/
inductive Reachable : RuleStack → Prop
  | initial : Reachable grammar.initialStack
  | line {stack : RuleStack} (line : Text) :
      Reachable stack → Reachable (grammar.tokenizeLine line (some stack)).stack

theorem Reachable.rooted (h : grammar.Reachable stack) : stack.Rooted grammar.scopeName := by
  induction h with
  | initial => exact grammar.initialStack_rooted
  | line line _ ih => exact (takeAll_sound grammar ih line).1

/-- Tokens tile their line: they are unmerged, lie end to end from its start to its end
between characters, begin with the scope of the grammar, and cover something each, except that
an empty line has one token, which covers nothing and has the scopes inside the rules left
open. -/
theorem tokenizeLine_tiles (line : Text) {stack : RuleStack} (h : grammar.Reachable stack) :
    let result := grammar.tokenizeLine line (some stack)
    Tiles 0 result.tokens line.width ∧
      (∀ token ∈ result.tokens, token.Sound line grammar.scopeName) ∧
      (line ≠ [] → ∀ token ∈ result.tokens, token.start < token.stop) ∧
      (line = [] → result.tokens =
        [{ start := 0, stop := 0, scopes := result.stack.top.contentScopes }]) := by
  rw [tokenizeLine_eq]
  obtain ⟨hstack, hrun⟩ := takeAll_sound grammar h.rooted line
  generalize grammar.takeAll (.ofLine line) stack .empty = last at hstack hrun
  obtain ⟨after, run⟩ := last
  dsimp only at hstack hrun ⊢
  have hcontent := (hstack after.top List.mem_cons_self).2
  have hall := hrun.coverTo (.width line) hcontent
  have hstop : (run.coverTo line.width after.top.contentScopes).stop = line.width :=
    Nat.le_antisymm hall.stop.le_width (TokenRun.le_stop_coverTo _ _ _)
  have htiles := hall.tiles
  rw [hstop] at htiles
  by_cases hline : line = []
  · subst hline
    rw [TokenRun.finish, hall.tokens_eq_nil]
    refine ⟨⟨rfl, Nat.le_refl _, rfl⟩, ?_, fun hne => absurd rfl hne, fun _ => rfl⟩
    intro token hmem
    rw [List.mem_singleton.mp hmem]
    exact ⟨rfl, hcontent, .zero [], .zero []⟩
  · have hnonempty : (run.coverTo line.width after.top.contentScopes).tokens ≠ [] := by
      intro hnil
      rw [hnil] at htiles
      exact absurd htiles (Nat.ne_of_lt (Text.width_pos hline))
    rw [TokenRun.finish, if_neg (by simpa using hnonempty)]
    exact ⟨htiles, fun token hmem => (hall.tokens token hmem).2,
      fun _ token hmem => (hall.tokens token hmem).1, fun hnil => absurd hnil hline⟩

/-- A rule that runs from one parenthesis to the other. -/
def parentheses : Grammar :=
  ⟨none, "source", [], [⟨"grammar", [], .container [1]⟩,
    ⟨"repository.parentheses", ["group"],
      .span (.set (.single '(')) (.set (.single ')')) [] [] ["body"] false []⟩]⟩

/-- A line that closes what the line before it opened. -/
theorem tokenizeLine_tiles_parentheses :
    ∃ stack, Reachable parentheses stack ∧ stack.depth = 2 ∧
      Tiles 0 (parentheses.tokenizeLine ['b', ')'] (some stack)).tokens (Text.width ['b', ')']) := by
  have hreach : Reachable parentheses
      (parentheses.tokenizeLine ['('] (some parentheses.initialStack)).stack := .line ['('] .initial
  have htiles := (tokenizeLine_tiles parentheses ['b', ')'] hreach).1
  exact ⟨_, hreach, by decide, htiles⟩

end Grammar

end TokenConcord
