import TokenConcord.Proofs.Reconcile.Continued

/-!
# Lines that begin with a quoted identifier

Under the bundled grammar a quoted identifier at the beginning of a line ends at the quote that
closes it for the reference lexer. If the lexer finds no such quote, each quote behind the opener
is half of a doubled one, and the grammar has an end all the same: its pattern gives the last quote
of the line back and ends the identifier at the quote in front of it. Only where no quote follows
at all there is no identifier for the grammar.
-/

namespace TokenConcord

open Lexing TokenRun

/-- The tokens begin with the opener of a quoted identifier, and its end covers this stretch. -/
def QuotesOver (start stop : Nat) (tokens : List ScopedToken) : Prop :=
  ∃ opener later, tokens = opener :: later ∧ opener.hasScope Label.quotedIdentifierBegin = true ∧
    opener.start = 0 ∧ opener.stop = 2 ∧
      ClosesOver Label.identifier Label.quotedIdentifierEnd start stop later

namespace Bundled

open Pattern Grammar ScopedToken

variable {front text content rest : Text}

/-! ## With a closing quote -/

theorem within_identifier {token : ScopedToken}
    (h : token.scopes = rootScopes ++ [Label.identifier]) :
    token.Within Label.identifier Label.quotedIdentifierEnd := by
  rw [ScopedToken.Within, hasScope, hasScope, h]
  decide

/-- What the pattern for quoted identifiers takes at the beginning of a line is an identifier with
both its ends. -/
theorem quotesOver_of_endsQuoted (hcontent : Quoted content) (hrest : EndsQuoted rest) :
    QuotesOver (2 + content.width) (3 + content.width)
      (compiled.tokenizeLine ('#' :: '"' :: (content ++ '"' :: rest))).tokens := by
  have hclosed : Text.width (['#', '"'] ++ content) = 2 + content.width := Text.width_append _ _
  have hstop : Text.width (['#', '"'] ++ content ++ ['"']) = 3 + content.width := by
    rw [Text.width_append, hclosed]
    exact Nat.add_right_comm 2 content.width 1
  have hrun : TokenRun.empty.stop ≤ Text.width [] := Nat.le_refl 0
  have htake := takeAll_quotedIdentifier hcontent hrest hrun
  dsimp only [List.nil_append] at htake
  obtain ⟨later, hlater⟩ := tokenizeLine_tokens htake
  rw [tokenizeLine_initial, hlater]
  exact ⟨_, _, List.append_assoc .., labels_quotedIdentifier.1, rfl, rfl, _, _, later,
    List.append_assoc .., fun token hmem => within_identifier (mem_gap hmem).2,
    labels_quotedIdentifier.2, hclosed, hstop⟩

/-! ## Without a closing quote -/

/-- Without a quote behind the opener nothing is found at it. -/
theorem foundAt_hash_none {frame : Frame} (h : IsCode frame) (htext : '"' ∉ text) :
    compiled.foundAt frame (.between front ('#' :: '"' :: text)) = none := by
  rw [foundAt_hash_quote h, Option.map_eq_none_iff, Option.eq_none_iff_forall_ne_some]
  intro found hmatch
  obtain ⟨u, rest, hsplit, _, hreads, _⟩ := nonEmptyAt_reads hmatch
  obtain ⟨inner, rfl, _⟩ := quotedPattern_reads hreads
  have hinner : text = inner ++ '"' :: rest := by simpa using hsplit
  exact htext (by simp [hinner])

/-- Without a quote behind the opener a text literal opens in its place and is left open. -/
theorem unquoted_of_not_mem (h : '"' ∉ text) :
    ∀ token ∈ (compiled.tokenizeLine ('#' :: '"' :: text)).tokens,
      token.hasScope Label.quotedIdentifierBegin = false := by
  have hplain := codeStack_initial.top.plain
  have hrun : TokenRun.empty.stop ≤ Text.width ([] ++ ['#']) := Nat.zero_le _
  obtain ⟨inner, stop, hinner, htake⟩ :=
    takeAll_quote_opened grounded_root isCode_root (quoted_of_not_mem h) hrun
  rw [tokenizeLine_initial, tokenizeLine_eq, Cursor.ofLine_eq,
    takeAll_skip grounded_root (foundAt_hash_none isCode_root h), htake]
  dsimp only [RuleStack.push, textFrame]
  obtain ⟨added, htokens, hadded⟩ := finish_coverTo
    ⟨TokenRun.empty.tokens ++ gap TokenRun.empty.stop (Text.width ([] ++ ['#'])) _ ++
      textOpener _ ([] ++ ['#']) :: inner, stop⟩
    (Text.width ('#' :: '"' :: text)) (textScopes compiled.initialStack.top.contentScopes)
  rw [htokens]
  intro token hmem
  simp only [List.mem_append, List.mem_cons, TokenRun.empty, List.not_mem_nil, false_or] at hmem
  rcases hmem with (hgap | rfl | hmem) | hmem
  · exact loose_of_clear ((mem_gap hgap).2 ▸ hplain.clear) _ List.mem_cons_self
  · exact (opensText_textOpener hplain _).other _ List.mem_cons_self
  · exact (insideText_of_inText hplain (hinner token hmem)).loose _ List.mem_cons_self
  · obtain ⟨hunmerged, hscopes⟩ := hadded token hmem
    exact (insideText_of_inText hplain ⟨hunmerged, Or.inl hscopes⟩).loose _ List.mem_cons_self

/-! ## Both -/

/-- A line that begins with the opener of a quoted identifier has the end of it where the lexer
finds the closing quote. If the lexer finds none and quotes follow, the first one of the last two
is its end, and without a further quote the line has no quoted identifier. -/
theorem tokenizeLine_quotedIdentifier {grammar : Grammar}
    (hgrammar : Bundled.grammar = .ok grammar) (text : Text) :
    let tokens := (grammar.tokenizeLine ('#' :: '"' :: text)).tokens
    (∀ quote, closingQuote? text = some quote → QuotesOver (2 + quote) (3 + quote) tokens) ∧
      (closingQuote? text = none → '"' ∈ text → ∃ before after,
        text = before ++ '"' :: '"' :: after ∧ '"' ∉ after ∧
          QuotesOver (2 + before.width) (3 + before.width) tokens) ∧
      ('"' ∉ text → closingQuote? text = none ∧
        ∀ token ∈ tokens, token.hasScope Label.quotedIdentifierBegin = false) := by
  obtain rfl : compiled = grammar := Except.ok.inj (grammar_eq.symm.trans hgrammar)
  refine ⟨fun quote h => ?_, fun h hquote => ?_, fun h => ⟨?_, unquoted_of_not_mem h⟩⟩
  · obtain ⟨content, hcontent, rfl⟩ := Option.map_eq_some_iff.mp h
    obtain ⟨hquoted, rest, rfl, hrest⟩ := quotedContent?_eq_some hcontent
    exact quotesOver_of_endsQuoted hquoted (.single hrest)
  · have hquoted := quotedContent?_eq_none (Option.map_eq_none_iff.mp h)
    obtain ⟨before, after, rfl, hbefore, hafter⟩ := hquoted.exists_last hquote
    exact ⟨before, after, rfl, hafter, quotesOver_of_endsQuoted hbefore (.last hafter)⟩
  · rw [closingQuote?, (quoted_of_not_mem h).quotedContent?_eq_none]
    rfl

/-- An identifier with a doubled quote in it ends at the single one behind that. -/
theorem tokenizeLine_quotedIdentifier_pair :
    closingQuote? ['a', '"', '"', 'b', '"'] = some 4 ∧ QuotesOver 6 7
      (compiled.tokenizeLine ['#', '"', 'a', '"', '"', 'b', '"']).tokens :=
  ⟨by decide, (tokenizeLine_quotedIdentifier grammar_eq ['a', '"', '"', 'b', '"']).1 4 (by decide)⟩

/-- A line does not only have a quoted identifier where the lexer finds its closing quote: the
grammar ends one at the first half of a doubled quote. -/
theorem not_quotesOver_iff :
    ¬ ∀ text, (∃ start stop,
        QuotesOver start stop (compiled.tokenizeLine ('#' :: '"' :: text)).tokens) ↔
      ∃ quote, closingQuote? text = some quote := by
  intro h
  have hpair := @quotesOver_of_endsQuoted [] ['"'] .nil (.last List.not_mem_nil)
  obtain ⟨quote, hquote⟩ := (h ['"', '"']).mp ⟨2, 3, hpair⟩
  cases hquote

end Bundled

end TokenConcord
