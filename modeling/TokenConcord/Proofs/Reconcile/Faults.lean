import TokenConcord.Proofs.Grammar.Rounds
import TokenConcord.Proofs.Reconcile.Rounds

/-!
# Lines that do not normalize

Under the bundled grammar the tokens of a line fail to normalize for two reasons only: the line
opens a text literal and leaves it open, or it has a quoted identifier without content. In each
round over the line the tokens so far are complete units, or they end inside a text literal that
was open already or that the line opened, or such an identifier is among them.
-/

namespace TokenConcord

open ScopedToken TokenRun

/-! ## The tokens behind the last match -/

theorem finish_coverTo (run : TokenRun) (stop : Nat) (scopes : List String) :
    ∃ added, (run.coverTo stop scopes).finish scopes = run.tokens ++ added ∧
      ∀ token ∈ added, token.merged = false ∧ token.scopes = scopes := by
  rw [coverTo_eq, finish]
  by_cases hempty : (run.tokens ++ gap run.stop stop scopes).isEmpty = true
  · obtain ⟨hrun, -⟩ := List.append_eq_nil_iff.mp (List.isEmpty_iff.mp hempty)
    rw [if_pos hempty, hrun]
    exact ⟨_, rfl, List.forall_mem_singleton.mpr ⟨rfl, rfl⟩⟩
  · rw [if_neg hempty]
    exact ⟨_, rfl, fun token hmem => mem_gap hmem⟩

namespace Grammar

/-- A round over the line opened the innermost one of some rules: it begins where only the rules
below it are open, and leaves all of them open. -/
def OpenedOn (grammar : Grammar) (line : Text) (stack opened : RuleStack) : Prop :=
  ∃ scan next, grammar.Visited line stack scan ∧ grammar.round line scan = .ok (some next) ∧
    scan.frames = opened.below ∧ next.frames = opened.frames

end Grammar

namespace Bundled

open Pattern Grammar Lexing

variable {line front rest : Text} {stack after : RuleStack} {scan : Scan} {found : Found}

/-! ## Rounds over a line -/

/-- A text literal that was open in front of the line has been closed on it. -/
def LeftText (stack : RuleStack) (tokens : List ScopedToken) : Prop :=
  stack.top.rule = 20 → ∃ token ∈ tokens, token.hasScope Label.stringEnd = true

theorem LeftText.append {tokens : List ScopedToken} (h : LeftText stack tokens)
    (more : List ScopedToken) : LeftText stack (tokens ++ more) := by
  intro hrule
  obtain ⟨token, hmem, htoken⟩ := h hrule
  exact ⟨token, List.mem_append_left more hmem, htoken⟩

/-- How the line stands where a round begins with some rules open and some tokens so far. -/
inductive Phase (line : Text) (stack after : RuleStack) (tokens : List ScopedToken) : Prop
  /-- Inside the text literal that was open in front of the line. -/
  | within : after = stack → stack.top.rule = 20 → (∀ token ∈ tokens, token.InsideText) →
      Phase line stack after tokens
  /-- Behind complete units. -/
  | composed : LeftText stack tokens → after.top.rule ≠ 20 → Composed tokens →
      Phase line stack after tokens
  /-- Inside a text literal that the line opened behind complete units. -/
  | opened {before inner : List ScopedToken} {opener : ScopedToken} :
      LeftText stack tokens → after.top.rule = 20 → compiled.OpenedOn line stack after →
      tokens = before ++ opener :: inner → Composed before → opener.OpensText →
      (∀ token ∈ inner, token.InsideText) → Phase line stack after tokens
  /-- Behind a quoted identifier without content. -/
  | hollow : LeftText stack tokens → Hollow tokens → Phase line stack after tokens

theorem phase_start : Phase line stack stack [] := by
  by_cases hrule : stack.top.rule = 20
  · exact .within rfl hrule fun _ hmem => absurd hmem List.not_mem_nil
  · exact .composed (fun htext => absurd htext hrule) hrule .nil

theorem stop_le_take {run : TokenRun} (hrun : run.stop ≤ front.width)
    (hnext : compiled.nextMatch after.top (.between front rest) = some found) :
    (compiled.take after run found).2.stop ≤ found.result.stop.offset := by
  obtain ⟨aim, _, gap, _, rfl, haim⟩ := exists_aim_of_nextMatch hnext
  refine take_stop_le compiled haim ?_
  rw [Cursor.between_offset, Text.width_append]
  omega

/-- Inside a text literal each round goes on with it or closes it. -/
theorem Phase.take_text {code : RuleStack} {run : TokenRun} (hcode : CodeStack code)
    (h : Phase line stack (code.push (textFrame code.top.contentScopes)) run.tokens)
    (hrun : run.stop ≤ front.width)
    (hnext : compiled.nextMatch (textFrame code.top.contentScopes) (.between front rest) =
      some found) :
    let next := compiled.take (code.push (textFrame code.top.contentScopes)) run found
    Phase line stack next.1 next.2.tokens := by
  have htop : (code.push (textFrame code.top.contentScopes)).top =
      textFrame code.top.contentScopes := rfl
  have htake := Bundled.take_text htop hcode.top.plain hrun hnext
  dsimp only at htake ⊢
  cases h with
  | within hafter hrule hinside =>
      rcases htake with ⟨hstack, added, htokens, hadded⟩ | ⟨hstack, inner, closer, htokens, hinner,
        hloose, hend⟩
      · rw [hstack, htokens]
        exact .within hafter hrule (List.forall_mem_append.mpr ⟨hinside, hadded⟩)
      · rw [hstack, htokens]
        refine .composed (fun _ => ⟨closer, by simp, hend⟩) hcode.top.not_text ?_
        refine composed_of_loose (List.forall_mem_append.mpr
          ⟨fun token hmem => (hinside token hmem).loose, ?_⟩)
        exact List.forall_mem_append.mpr
          ⟨fun token hmem => (hinner token hmem).loose, List.forall_mem_singleton.mpr hloose⟩
  | composed _ hrule _ => exact absurd rfl hrule
  | @opened before inside opener hleft hrule hopened heq hbefore hopener hinside =>
      rcases htake with ⟨hstack, added, htokens, hadded⟩ | ⟨hstack, inner, closer, htokens, hinner,
        hloose, hend⟩
      · rw [hstack, htokens]
        have hsplit : run.tokens ++ added = before ++ opener :: (inside ++ added) := by
          rw [heq]
          simp
        exact .opened (hleft.append added) hrule hopened hsplit hbefore hopener
          (List.forall_mem_append.mpr ⟨hinside, hadded⟩)
      · rw [hstack, htokens]
        refine .composed (hleft.append _) hcode.top.not_text ?_
        have hsplit : run.tokens ++ (inner ++ [closer]) =
            before ++ opener :: (inside ++ inner ++ closer :: []) := by
          rw [heq]
          simp
        rw [hsplit]
        exact hbefore.append (.text hopener (List.forall_mem_append.mpr ⟨hinside, hinner⟩) hloose
          hend .nil)
  | hollow hleft hhollow =>
      obtain ⟨added, htokens, -⟩ := @take_adds compiled _ run found
      rw [htokens]
      exact .hollow (hleft.append added) (hhollow.append added)

/-- Inside a block comment each round takes loose tokens. -/
theorem Phase.take_comment {code : RuleStack} {run : TokenRun} (hcode : CodeStack code)
    (h : Phase line stack (code.push (remarkFrame code.top.contentScopes)) run.tokens)
    (hnext : compiled.nextMatch (remarkFrame code.top.contentScopes) (.between front rest) =
      some found) :
    let next := compiled.take (code.push (remarkFrame code.top.contentScopes)) run found
    Phase line stack next.1 next.2.tokens := by
  have htop : (code.push (remarkFrame code.top.contentScopes)).top =
      remarkFrame code.top.contentScopes := rfl
  obtain ⟨hstack, added, htokens, hadded⟩ := Bundled.take_comment htop hcode.top.plain hnext
  dsimp only
  rw [hstack, htokens]
  cases h with
  | within hafter hrule _ =>
      rw [← hafter] at hrule
      cases hrule
  | composed hleft _ hcomposed =>
      exact .composed (hleft.append added) hcode.top.not_text
        (hcomposed.append (composed_of_loose hadded))
  | opened _ hrule => cases hrule
  | hollow hleft hhollow => exact .hollow (hleft.append added) (hhollow.append added)

/-- In code each round adds complete units, or opens a text literal, or adds a quoted identifier
without content. -/
theorem Phase.take_code {run : TokenRun} (hcode : CodeStack after)
    (h : Phase line stack after run.tokens) (hname : Clear after.top.nameScopes)
    (hrun : run.stop ≤ front.width)
    (hnext : compiled.nextMatch after.top (.between front rest) = some found)
    (hvisited : ∃ scan next, compiled.Visited line stack scan ∧
      compiled.round line scan = .ok (some next) ∧ scan.frames = after.frames ∧
        next.frames = (compiled.take after run found).1.frames) :
    let next := compiled.take after run found
    Phase line stack next.1 next.2.tokens := by
  have htake := Bundled.take_code hcode hname hrun hnext
  dsimp only
  cases h with
  | within hafter hrule _ => exact absurd (hafter ▸ hrule) hcode.top.not_text
  | opened _ hrule => exact absurd hrule hcode.top.not_text
  | hollow hleft hhollow =>
      obtain ⟨added, htokens, -⟩ := @take_adds compiled _ run found
      rw [htokens]
      exact .hollow (hleft.append added) (hhollow.append added)
  | composed hleft _ hcomposed =>
      cases htake with
      | loose hadds hrule =>
          obtain ⟨added, htokens, hadded⟩ := hadds
          rw [htokens]
          exact .composed (hleft.append added) hrule (hcomposed.append (composed_of_loose hadded))
      | @text before opener htokens hbefore hopener hstack =>
          obtain ⟨scan, next, hscan, hround, hframes, hnextframes⟩ := hvisited
          rw [htokens]
          have hsplit : run.tokens ++ (before ++ [opener]) = run.tokens ++ before ++ opener :: [] :=
            (List.append_assoc ..).symm
          refine .opened (hleft.append _) (by rw [hstack]; rfl)
            ⟨scan, next, hscan, hround, ?_, hnextframes⟩ hsplit
            (hcomposed.append (composed_of_loose hbefore)) hopener
            fun _ hmem => absurd hmem List.not_mem_nil
          rw [hframes, hstack]
          rfl
      | @quotedIdentifier before content opener closer htokens hbefore hopener hcloser hcontent hstack =>
          rw [htokens, hstack]
          rcases hcontent with rfl | ⟨token, rfl, hloose, hidentifier⟩
          · exact .hollow (hleft.append _)
              ⟨run.tokens ++ before, opener, closer, [], by simp, hopener, hcloser⟩
          · refine .composed (hleft.append _) hcode.top.not_text (hcomposed.append ?_)
            exact (composed_of_loose hbefore).append
              (.quotedIdentifier hopener hloose hidentifier hcloser .nil)

/-- Where a round begins the line stands in one of the phases. -/
theorem Visited.phase (h : compiled.Nested stack) (hvisited : compiled.Visited line stack scan) :
    ∃ front rest after, line = front ++ rest ∧
      scan.Stands compiled front stack.depth after ∧ scan.run.stop ≤ front.width ∧
        Phase line stack after scan.run.tokens := by
  have hclosed := compile_closed grammar_eq
  induction hvisited with
  | start => exact ⟨[], line, stack, rfl, ⟨h, Nat.le_add_right _ _, rfl, rfl⟩, Nat.le_refl _, phase_start⟩
  | @round scan next hscan hround ih =>
      obtain ⟨front, rest, after, rfl, hstands, hrun, hphase⟩ := ih
      have hstep := hround
      rw [hstands.round_eq hclosed] at hstep
      obtain ⟨found, hnext, rfl⟩ := Option.map_eq_some_iff.mp (Except.ok.inj hstep)
      obtain ⟨u, rest', rfl, hstop, hafter, -⟩ := hstands.take hclosed hnext
      have hstop_le := stop_le_take hrun hnext
      rw [hstop] at hstop_le
      refine ⟨front ++ u, rest', _, (List.append_assoc ..).symm, hafter, hstop_le, ?_⟩
      rcases nested_cases hstands.nested with hcode | ⟨code, hcode, rfl | rfl⟩
      · have hname : Clear after.top.nameScopes := fun scope hmem =>
          hcode.top.plain.clear scope ((isPrefix_nameScopes hstands.nested).subset hmem)
        exact hphase.take_code hcode hname hrun hnext
          ⟨scan, _, hscan, hround, hstands.frames, rfl⟩
      · exact hphase.take_text hcode hrun hnext
      · exact hphase.take_comment hcode hnext

/-! ## At the end of the line -/

theorem openAt_text_iff (h : compiled.Nested stack) :
    compiled.OpenAt "repository.String" stack.top ↔ stack.top.rule = 20 := by
  constructor
  · intro hopen
    rcases nested_cases h with hcode | ⟨code, _, rfl | rfl⟩
    · exact absurd hopen (openAt_code hcode.top.code (by decide))
    · rfl
    · exact absurd hopen fun hopen => absurd ((openAt_comment rfl).mp hopen) (by decide)
  · intro hrule
    rw [Grammar.OpenAt, hrule]
    rfl

/-- Tokens behind the last match go on inside what is open there. -/
theorem composed_of_contentScopes (h : compiled.Nested stack) {tokens : List ScopedToken}
    (htokens : ∀ token ∈ tokens, token.merged = false ∧ token.scopes = stack.top.contentScopes) :
    Composed tokens := by
  have hclear : Clear stack.top.contentScopes := by
    have hlabels : Clear [Label.string] ∧ Clear [Label.blockComment] := by decide
    rcases nested_cases h with hcode | ⟨code, hcode, rfl | rfl⟩
    · exact hcode.top.plain.clear
    · exact hcode.top.plain.clear.append hlabels.1
    · exact hcode.top.plain.clear.append hlabels.2
  exact composed_of_loose fun token hmem => loose_of_clear ((htokens token hmem).2 ▸ hclear)

theorem insideText_of_contentScopes (h : compiled.Nested stack) (hrule : stack.top.rule = 20)
    {token : ScopedToken} (htoken : token.merged = false ∧ token.scopes = stack.top.contentScopes) :
    token.InsideText := by
  rcases nested_cases h with hcode | ⟨code, hcode, rfl | rfl⟩
  · exact absurd hrule hcode.top.not_text
  · exact insideText_of_inText hcode.top.plain ⟨htoken.1, Or.inl htoken.2⟩
  · cases hrule

/-- A text literal that was open in front of a line and is never closed on it was not opened on
the line either. -/
theorem not_openedOn_of_within (h : compiled.Nested stack)
    (hrule : stack.top.rule = 20)
    (hinside : ∀ token ∈ (compiled.takeAll (.ofLine line) stack .empty).2.tokens, token.InsideText) :
    ¬ compiled.OpenedOn line stack stack := by
  rintro ⟨scan, next, hvisited, -, hframes, -⟩
  obtain ⟨front, rest, after, -, hstands, -, hphase⟩ := Visited.phase h hvisited
  obtain ⟨front', rest', after', -, hstands', htake⟩ :=
    hvisited.takeAll_eq (compile_closed grammar_eq) h
  have hleft : LeftText stack scan.run.tokens := by
    cases hphase with
    | within hafter _ _ =>
        -- The round begins with as many rules open as the line, one more than below.
        have hdepth : scan.frames.length = stack.frames.length := by
          rw [hstands.frames, hafter]
        rw [hframes, RuleStack.frames, List.length_cons] at hdepth
        omega
    | composed hleft => exact hleft
    | opened hleft => exact hleft
    | hollow hleft => exact hleft
  obtain ⟨token, hmem, hend⟩ := hleft hrule
  have hadds : Adds (fun token => token.merged = false) scan.run
      (compiled.takeAll (.between front' rest') after' scan.run).2 := takeMatches_adds _ _
  obtain ⟨added, htokens, -⟩ := hadds
  rw [htake] at htokens
  have hlast : token ∈ (compiled.takeAll (.ofLine line) stack .empty).2.tokens := by
    rw [htokens]
    exact List.mem_append_left _ hmem
  rw [(hinside token hlast).goesOn] at hend
  cases hend

/-- Behind its rounds a line stands in one of the phases, and its last tokens go on inside what it
leaves open. -/
theorem exists_phase (h : compiled.Nested stack) (line : Text) :
    let result := compiled.tokenizeLine line (some stack)
    let run := (compiled.takeAll (.ofLine line) stack .empty).2
    compiled.Nested result.stack ∧ Phase line stack result.stack run.tokens ∧
      ∃ added, result.tokens = run.tokens ++ added ∧
        ∀ token ∈ added, token.merged = false ∧ token.scopes = result.stack.top.contentScopes := by
  intro result run
  have hclosed := compile_closed grammar_eq
  have hstart : (⟨stack.frames, 0, .empty⟩ : Scan).Stands compiled [] stack.depth stack :=
    ⟨h, Nat.le_add_right _ _, rfl, rfl⟩
  obtain ⟨last, hvisited, -, hframes, hrun, -⟩ :=
    Visited.exists_last hclosed .start (List.nil_append line).symm hstart
  obtain ⟨_, _, after, -, hstands, -, hphase⟩ := Visited.phase h hvisited
  have hstack : after = result.stack := frames_injective (hstands.frames.symm.trans hframes)
  have hlast : last.run = run := hrun
  rw [hlast, hstack] at hphase
  obtain ⟨added, htokens, hadded⟩ :=
    finish_coverTo run line.width result.stack.top.contentScopes
  exact ⟨hstack ▸ hstands.nested, hphase, added, htokens, hadded⟩

theorem exists_fault_iff {tokens : List ScopedToken} :
    (∃ fault, normalize tokens = .error fault) ↔ ∀ out, normalize tokens ≠ .ok out := by
  cases normalize tokens with
  | error fault => simp
  | ok out => simp

/-- Complete units normalize, and no quoted identifier without content is among them. -/
theorem fails_iff_of_composed {tokens : List ScopedToken} {opened : Prop} (h : Composed tokens)
    (hopened : ¬ opened) :
    (∀ out, normalize tokens ≠ .ok out) ↔ opened ∨
      ∃ opener closer, [opener, closer] <:+: tokens ∧
        opener.hasScope Label.quotedIdentifierBegin = true ∧
          closer.hasScope Label.quotedIdentifierEnd = true := by
  obtain ⟨out, hout⟩ := h.normalize
  refine iff_of_false (fun hnone => hnone out hout) ?_
  rintro (hopen | hempty)
  · exact hopened hopen
  · exact h.not_emptyIdentifier hempty

/-- Under the bundled grammar, behind any lines, the tokens of a line fail to normalize exactly if
the line opens a text literal and leaves it open as the innermost rule, or if among its tokens one
that begins a quoted identifier is followed by one that ends it. -/
theorem normalize_fails_iff {grammar : Grammar} (hgrammar : Bundled.grammar = .ok grammar)
    (hreachable : grammar.Reachable stack) (line : Text) :
    let result := grammar.tokenizeLine line (some stack)
    (∃ fault, normalize result.tokens = .error fault) ↔
      (grammar.OpenAt "repository.String" result.stack.top ∧
          grammar.OpenedOn line stack result.stack) ∨
        ∃ opener closer, [opener, closer] <:+: result.tokens ∧
          opener.hasScope Label.quotedIdentifierBegin = true ∧
            closer.hasScope Label.quotedIdentifierEnd = true := by
  obtain rfl : compiled = grammar := Except.ok.inj (grammar_eq.symm.trans hgrammar)
  have hnested := hreachable.nested
  obtain ⟨hafter, hphase, added, hresult, hadded⟩ := exists_phase hnested line
  have hbehind := composed_of_contentScopes hafter hadded
  dsimp only
  rw [exists_fault_iff, openAt_text_iff hafter, hresult]
  cases hphase with
  | within heq hrule hinside =>
      have hcomposed := composed_of_loose fun token hmem => (hinside token hmem).loose
      refine fails_iff_of_composed (hcomposed.append hbehind) ?_
      rintro ⟨-, hopened⟩
      rw [heq] at hopened
      exact not_openedOn_of_within hnested hrule hinside hopened
  | composed _ hrule hcomposed =>
      exact fails_iff_of_composed (hcomposed.append hbehind) fun hopen => hrule hopen.1
  | @opened before inner opener _ hrule hopened heq _ hopener hinner =>
      refine iff_of_true (fun out hout => ?_) (Or.inl ⟨hrule, hopened⟩)
      rw [heq, List.append_assoc, List.cons_append] at hout
      obtain ⟨token, hmem, hend⟩ := Normalize.units_exists_behind hopener hout
      have hinside : token.InsideText := (List.mem_append.mp hmem).elim (hinner token) fun hmem =>
        insideText_of_contentScopes hafter hrule (hadded token hmem)
      rw [hinside.goesOn] at hend
      cases hend
  | hollow _ hhollow =>
      have hhollow := hhollow.append added
      exact iff_of_true hhollow.not_normalize (Or.inr hhollow.emptyIdentifier)

/-- A line that is a quote opens a text literal and leaves it open, and does not normalize. -/
theorem normalize_fails_iff_quote :
    (∃ fault, normalize (compiled.tokenizeLine ['"'] (some compiled.initialStack)).tokens =
        .error fault) ∧
      compiled.OpenedOn ['"'] compiled.initialStack
        (compiled.tokenizeLine ['"'] (some compiled.initialStack)).stack := by
  have hlength : (compiled.tokenizeLine ['"'] (some compiled.initialStack)).tokens.length = 1 := by
    decide
  have hfault : normalize (compiled.tokenizeLine ['"'] (some compiled.initialStack)).tokens =
      .error (.exhausted .string 0 Label.stringEnd) := by
    decide
  refine ⟨⟨_, hfault⟩, ?_⟩
  rcases (normalize_fails_iff grammar_eq .initial ['"']).mp ⟨_, hfault⟩ with
    ⟨-, hopened⟩ | ⟨opener, closer, hinfix, -⟩
  · exact hopened
  · have hle : 2 ≤ 1 := hlength ▸ hinfix.length_le
    exact absurd hle (by decide)

end Bundled

end TokenConcord
