import TokenConcord.Proofs.Lexing.Accounting
import TokenConcord.Proofs.Reconcile.Agreement

/-!
# What a passing line shows

Normalizing drops whatever stands under the root scope alone, blank or not. Where a line reconciles
that hides nothing: each token of the grammar lies over one of the reference lexer, whose tokens
leave out white space only.
-/

namespace TokenConcord

open Lexing Outcome

variable {table : ClassificationTable} {actuals : List ScopedToken} {expecteds : List Token}
  {byte : Nat}

theorem Agrees.covers_iff {actual : ScopedToken} {expected : Token}
    (h : Agrees table actual expected) : actual.Covers byte ↔ expected.Covers byte := by
  rw [ScopedToken.Covers, Token.Covers, h.1, h.2.1]

/-- Streams that agree leave out the same bytes. -/
theorem uncovered_iff_of_agrees (h : List.Forall₂ (Agrees table) actuals expecteds) :
    (∀ token ∈ actuals, ¬ token.Covers byte) ↔ ∀ token ∈ expecteds, ¬ token.Covers byte := by
  induction h with
  | nil => exact iff_of_true (fun _ hmem => by cases hmem) fun _ hmem => by cases hmem
  | cons hagrees _ ih =>
      rw [List.forall_mem_cons, List.forall_mem_cons, ih, hagrees.covers_iff]

/-- The tokens of a text are laid out in it. -/
theorem Lexing.Document.ofText_laidOut {text : Text} {document : Document}
    (h : Document.ofText text = .ok document) : LaidOut text document.tokens := by
  obtain ⟨added, hadded, haccounts⟩ :=
    Document.appendAll_accounts h fun line hmem => Text.not_mem_of_mem_splitLines hmem
  rw [Text.intercalate_splitLines] at haccounts
  rw [hadded]
  exact haccounts.laidOut

namespace Reconciler

variable {reconciler : Reconciler} {text : Text} {report : LineReport}

/-- A line that reconciles has been lexed and compared, and its report has what was compared. -/
theorem line_ok (h : reconciler.line text = .ok report) :
    (∃ document, Document.ofText text = .ok document ∧
      report.referenceTokens = document.tokens) ∧
    List.Forall₂ (Agrees reconciler.table) report.grammarTokens report.referenceTokens := by
  have hcompared : ∀ units : List ScopedToken, (do
      let document ← (Document.ofText text).mapError ReconcileError.lex
      Comparison.checkSame ⟨text, units, document.tokens, reconciler.table⟩
      return LineReport.mk units document.tokens) = .ok report →
      (∃ document, Document.ofText text = .ok document ∧
        report.referenceTokens = document.tokens) ∧
      List.Forall₂ (Agrees reconciler.table) report.grammarTokens report.referenceTokens := by
    intro units h
    simp only [bind_ok_iff, mapError_ok_iff, pure_ok_iff] at h
    obtain ⟨document, hdocument, _, hcheck, rfl⟩ := h
    exact ⟨⟨document, hdocument, rfl⟩, checkSame_ok_iff.mp hcheck⟩
  unfold line at h
  dsimp only at h
  -- The tokens are compared alike, normalized or not.
  split at h
  · obtain ⟨units, -, h⟩ := bind_ok_iff.mp h
    exact hcompared units h
  · exact hcompared _ h

/-- A line that reconciles hides nothing, whatever the grammar and the table. Both sides report as
many tokens. Those in the same place have the same ends, and the table accepts the innermost scope
of the one for the kind of the other. A byte that the tokens of a side leave out is a space, a tab,
a carriage return, a form feed or a line feed. -/
theorem line_hides_nothing (h : reconciler.line text = .ok report) :
    report.grammarTokens.length = report.referenceTokens.length ∧
    (∀ (index : Nat) (actual : ScopedToken) (expected : Token),
      report.grammarTokens[index]? = some actual → report.referenceTokens[index]? = some expected →
        Agrees reconciler.table actual expected) ∧
    ∀ byte < text.width,
      (∀ token ∈ report.grammarTokens, ¬ token.Covers byte) ∨
        (∀ token ∈ report.referenceTokens, ¬ token.Covers byte) →
      ∃ (front : Text) (c : Char) (back : Text),
        text = front ++ c :: back ∧ front.width = byte ∧ c ∈ [' ', '\t', '\r', '\x0c', '\n'] := by
  obtain ⟨⟨document, hdocument, hreference⟩, hagrees⟩ := line_ok h
  refine ⟨hagrees.length_eq, fun index actual expected hactual hexpected => ?_,
    fun byte hbyte hnone => ?_⟩
  · obtain ⟨hindex, rfl⟩ := List.getElem?_eq_some_iff.mp hactual
    obtain ⟨hindex', rfl⟩ := List.getElem?_eq_some_iff.mp hexpected
    exact hagrees.get hindex hindex'
  · rw [uncovered_iff_of_agrees hagrees, or_self, hreference] at hnone
    exact (Document.ofText_laidOut hdocument).uncovered byte hbyte hnone

/-- A grammar of opening parentheses alone, with a table that lists their kind. -/
def openings : Reconciler where
  grammar := ⟨none, "source", [], [⟨"grammar", [], .container [1]⟩,
    ⟨"repository.opening", ["opening"], .single (.set (.single '(')) []⟩]⟩
  table := ⟨[(.leftParenthesis, .exact "opening")], by decide⟩

/-- The tab between two parentheses is left out by both sides. -/
theorem line_hides_nothing_tab :
    ∃ report, openings.line ['(', '\t', '('] = .ok report ∧
      report.grammarTokens.length = report.referenceTokens.length ∧
      (∀ token ∈ report.grammarTokens, ¬ token.Covers 1) ∧
      ∃ (front : Text) (c : Char) (back : Text),
        ['(', '\t', '('] = front ++ c :: back ∧ front.width = 1 ∧
          c ∈ [' ', '\t', '\r', '\x0c', '\n'] := by
  have htokens : (openings.line ['(', '\t', '(']).map (·.grammarTokens) =
      .ok [⟨0, 1, ["source", "opening"], false⟩, ⟨2, 3, ["source", "opening"], false⟩] := by
    decide
  cases hreport : openings.line ['(', '\t', '('] with
  | error fault => rw [hreport] at htokens; cases htokens
  | ok report =>
      rw [hreport] at htokens
      replace htokens : report.grammarTokens = _ := Except.ok.inj htokens
      have huncovered : ∀ token ∈ report.grammarTokens, ¬ token.Covers 1 := by
        rw [htokens]
        decide
      obtain ⟨hlength, -, hbytes⟩ := line_hides_nothing hreport
      exact ⟨report, rfl, hlength, huncovered, hbytes 1 (by decide) (Or.inl huncovered)⟩

end Reconciler

end TokenConcord
