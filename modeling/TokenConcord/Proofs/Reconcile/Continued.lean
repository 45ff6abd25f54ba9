import TokenConcord.Proofs.Reconcile.Faults

/-!
# Lines that go on with an open construct

A line behind an open text literal or block comment goes on with it under the bundled grammar up to
the place where the reference lexer has it closed, and to its end if the lexer has it open still.
-/

namespace TokenConcord

open Lexing TokenRun

/-- The token belongs to a construct and is not its end. -/
def ScopedToken.Within (label endLabel : String) (token : ScopedToken) : Prop :=
  token.hasScope label = true ∧ token.hasScope endLabel = false

/-- One of the tokens is the end of a construct and covers this stretch, and all in front of it
belong to the construct. -/
def ClosesOver (label endLabel : String) (start stop : Nat) (tokens : List ScopedToken) : Prop :=
  ∃ inner closer later, tokens = inner ++ closer :: later ∧
    (∀ token ∈ inner, token.Within label endLabel) ∧ closer.hasScope endLabel = true ∧
      closer.start = start ∧ closer.stop = stop

/-- A line from which nothing is taken is one token. -/
theorem TokenRun.finish_empty (stop : Nat) (scopes : List String) :
    (TokenRun.empty.coverTo stop scopes).finish scopes = [{ start := 0, stop, scopes }] := by
  rw [coverTo_eq, finish, gap]
  by_cases hstop : stop ≤ TokenRun.empty.stop
  · obtain rfl : stop = 0 := Nat.le_zero.mp hstop
    rfl
  · rw [if_neg hstop]
    rfl

/-- The tokens of a line begin with those that are taken from the first part of it. -/
theorem Grammar.tokenizeLine_tokens {grammar : Grammar} {line front rest : Text}
    {stack after : RuleStack} {run : TokenRun}
    (h : grammar.takeAll (.ofLine line) stack .empty =
      grammar.takeAll (.between front rest) after run) :
    ∃ later, (grammar.tokenizeLine line (some stack)).tokens = run.tokens ++ later := by
  have hadds : Adds (fun token => token.merged = false) run
      (grammar.takeAll (.between front rest) after run).2 := takeMatches_adds _ _
  obtain ⟨added, hadded, -⟩ := hadds
  rw [tokenizeLine_eq, h]
  obtain ⟨last, hlast, -⟩ := finish_coverTo
    (grammar.takeAll (.between front rest) after run).2 line.width
    (grammar.takeAll (.between front rest) after run).1.top.contentScopes
  exact ⟨added ++ last, by rw [← List.append_assoc, ← hadded, ← hlast]⟩

namespace Bundled

open Pattern Grammar ScopedToken

variable {stack : RuleStack} {line : Text} {scopes : List String}

/-! ## Text literals -/

theorem within_of_inText (hplain : Plain scopes) {token : ScopedToken} (h : InText scopes token) :
    token.Within Label.string Label.stringEnd :=
  (insideText_of_inText hplain h).continuesText

/-- A line behind an open text literal has its end where the lexer finds the closing quote. -/
theorem text_closes (hground : compiled.Grounded stack) (htop : stack.top = textFrame scopes)
    (hplain : Plain scopes) {quote : Nat} (h : closingQuote? line = some quote) :
    ClosesOver Label.string Label.stringEnd quote (quote + 1)
      (compiled.tokenizeLine line (some stack)).tokens := by
  obtain ⟨content, hcontent, rfl⟩ := Option.map_eq_some_iff.mp h
  obtain ⟨hquoted, rest, rfl, hrest⟩ := quotedContent?_eq_some hcontent
  obtain ⟨inner, hinner, htake⟩ := @takeAll_text_closed stack [] rest content .empty scopes hground
    htop hquoted hrest (Nat.zero_le _)
  obtain ⟨later, hlater⟩ := tokenizeLine_tokens htake
  refine ⟨inner, textCloser scopes content, later, ?_,
    fun token hmem => within_of_inText hplain (hinner token hmem), ?_, rfl, ?_⟩
  · rw [hlater]
    simp [TokenRun.empty]
  · simp [hasScope, textCloser]
  · exact Text.width_append content ['"']

/-- A line behind an open text literal goes on with it to the end if no quote closes it. -/
theorem text_goesOn (hground : compiled.Grounded stack) (htop : stack.top = textFrame scopes)
    (hplain : Plain scopes) (h : closingQuote? line = none) :
    let result := compiled.tokenizeLine line (some stack)
    (∀ token ∈ result.tokens, token.Within Label.string Label.stringEnd) ∧
      result.stack = stack := by
  have hquoted := quotedContent?_eq_none (Option.map_eq_none_iff.mp h)
  obtain ⟨inner, stop, hinner, htake⟩ := @takeAll_text_opened stack [] line .empty scopes hground
    htop hquoted
  have htake : compiled.takeAll (.ofLine line) stack .empty = (stack, ⟨inner, stop⟩) := htake
  obtain ⟨added, htokens, hadded⟩ := finish_coverTo ⟨inner, stop⟩ line.width (textScopes scopes)
  rw [tokenizeLine_eq, htake]
  refine ⟨fun token hmem => within_of_inText hplain ?_, rfl⟩
  have hscopes : stack.top.contentScopes = textScopes scopes := by rw [htop]; rfl
  dsimp only at hmem
  rw [hscopes, htokens] at hmem
  rcases List.mem_append.mp hmem with hmem | hmem
  · exact hinner token hmem
  · exact ⟨(hadded token hmem).1, Or.inl (hadded token hmem).2⟩

/-! ## Block comments -/

theorem within_comment (hplain : Plain scopes) {token : ScopedToken}
    (h : token.scopes = scopes ++ [Label.blockComment]) :
    token.Within Label.blockComment Label.blockCommentEnd := by
  have hlabel : Label.blockCommentEnd ∉ ["source.powerquery", "meta.recordexpression.powerquery"] ∧
      Label.blockCommentEnd ≠ Label.blockComment := by decide
  have hscopes : Label.blockCommentEnd ∉ scopes := fun hmem => hlabel.1 (hplain _ hmem)
  rw [ScopedToken.Within, hasScope, hasScope, h]
  simp [hscopes, hlabel.2]

/-- A line behind an open block comment has its end where the lexer finds the closer. -/
theorem comment_closes (hground : compiled.Grounded stack) (htop : stack.top = remarkFrame scopes)
    (hplain : Plain scopes) {stop : Nat} (h : commentEnd? line = some stop) :
    ∃ start, stop = start + 2 ∧ ClosesOver Label.blockComment Label.blockCommentEnd start stop
      (compiled.tokenizeLine line (some stack)).tokens := by
  obtain ⟨content, hcontent, rfl⟩ := Option.map_eq_some_iff.mp h
  obtain ⟨rest, rfl⟩ := commentContent?_eq_some hcontent
  have hrule : stack.top.rule = 1 := by rw [htop]; rfl
  have hscopes : stack.top.contentScopes = scopes ++ [Label.blockComment] := by rw [htop]; rfl
  have htake := (@takeAll_comment_content _ [] _ _ .empty hground hrule hcontent).trans
    (takeAll_comment_end hground hrule (Nat.zero_le _))
  obtain ⟨later, hlater⟩ := tokenizeLine_tokens htake
  rw [hlater, hscopes]
  refine ⟨content.width, rfl, gap 0 content.width (scopes ++ [Label.blockComment]), _, later,
    List.append_assoc .., fun token hmem => within_comment hplain (mem_gap hmem).2, ?_, rfl, ?_⟩
  · simp [hasScope]
  · exact Text.width_append content ['*', '/']

/-- A line behind an open block comment is one token of it if the lexer finds no closer. -/
theorem comment_goesOn (hground : compiled.Grounded stack) (htop : stack.top = remarkFrame scopes)
    (hplain : Plain scopes) (h : commentEnd? line = none) :
    let result := compiled.tokenizeLine line (some stack)
    (∃ token, result.tokens = [token] ∧ token.start = 0 ∧ token.stop = line.width ∧
      token.Within Label.blockComment Label.blockCommentEnd) ∧ result.stack = stack := by
  have hrule : stack.top.rule = 1 := by rw [htop]; rfl
  have hscopes : stack.top.contentScopes = scopes ++ [Label.blockComment] := by rw [htop]; rfl
  have htake : compiled.takeAll (.ofLine line) stack .empty = (stack, .empty) :=
    @takeAll_comment_opened stack [] line .empty hground hrule (Option.map_eq_none_iff.mp h)
  rw [tokenizeLine_eq, htake]
  exact ⟨⟨_, finish_empty line.width stack.top.contentScopes, rfl, rfl,
    within_comment hplain hscopes⟩, rfl⟩

/-! ## Both -/

/-- Behind a text literal or block comment that is open, a line has the end of it exactly where the
lexer finds one, and what is in front of that belongs to the construct. If the lexer finds none the
whole line does, and the open rules stay as they are. -/
theorem tokenizeLine_continues {grammar : Grammar} (hgrammar : Bundled.grammar = .ok grammar)
    (hreachable : grammar.Reachable stack) (line : Text) :
    let result := grammar.tokenizeLine line (some stack)
    (grammar.OpenAt "repository.String" stack.top →
      (∀ quote, closingQuote? line = some quote →
        ClosesOver Label.string Label.stringEnd quote (quote + 1) result.tokens) ∧
      (closingQuote? line = none →
        (∀ token ∈ result.tokens, token.Within Label.string Label.stringEnd) ∧
          result.stack = stack)) ∧
    (grammar.OpenAt "repository.BlockComment" stack.top →
      (∀ stop, commentEnd? line = some stop →
        ∃ start, stop = start + 2 ∧
          ClosesOver Label.blockComment Label.blockCommentEnd start stop result.tokens) ∧
      (commentEnd? line = none →
        (∃ token, result.tokens = [token] ∧ token.start = 0 ∧ token.stop = line.width ∧
          token.Within Label.blockComment Label.blockCommentEnd) ∧ result.stack = stack)) := by
  obtain rfl : compiled = grammar := Except.ok.inj (grammar_eq.symm.trans hgrammar)
  have hnested := hreachable.nested
  have hground := hnested.grounded (compile_closed grammar_eq)
  refine ⟨fun hopen => ?_, fun hopen => ?_⟩
  · have hrule := (openAt_text_iff hnested).mp hopen
    rcases nested_cases hnested with hcode | ⟨code, hcode, rfl | rfl⟩
    · exact absurd hrule hcode.top.not_text
    · have hplain := hcode.top.plain
      exact ⟨fun quote => text_closes hground rfl hplain, text_goesOn hground rfl hplain⟩
    · cases hrule
  · rcases nested_cases hnested with hcode | ⟨code, hcode, rfl | rfl⟩
    · exact absurd hopen (openAt_code hcode.top.code (by decide))
    · exact absurd (Option.some.inj hopen) (by decide)
    · have hplain := hcode.top.plain
      exact ⟨fun stop => comment_closes hground rfl hplain, comment_goesOn hground rfl hplain⟩

/-- Behind a quote a doubled quote is part of the text literal, and the next quote closes it. -/
theorem tokenizeLine_continues_pair :
    let stack := (compiled.tokenizeLine ['"'] (some compiled.initialStack)).stack
    compiled.OpenAt "repository.String" stack.top ∧
      ClosesOver Label.string Label.stringEnd 3 4
        (compiled.tokenizeLine ['"', '"', 'a', '"', ' ', 'b'] (some stack)).tokens := by
  intro stack
  have hreachable : compiled.Reachable stack := .line ['"'] .initial
  have hrule : (compiled.tokenizeLine ['"'] (some compiled.initialStack)).stack.top.rule = 20 := by
    decide
  have hopen := (openAt_text_iff hreachable.nested).mpr hrule
  have hline := tokenizeLine_continues grammar_eq hreachable ['"', '"', 'a', '"', ' ', 'b']
  exact ⟨hopen, (hline.1 hopen).1 3 (by decide)⟩

end Bundled

end TokenConcord
