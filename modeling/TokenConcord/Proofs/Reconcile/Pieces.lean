import TokenConcord.Proofs.Bundled.Pieces
import TokenConcord.Proofs.Lexing.History
import TokenConcord.Proofs.Reconcile.Steps

/-!
# Counts on lines of pieces

A text of items, block comments and line comments reconciles line by line under the bundled grammar
as long as only counts are compared. On each line both sides have one token for each piece that
stands on it, at least in part. Between two lines both sides stand in the same mode, so that each of
them goes on with a comment where the other does.
-/

namespace TokenConcord

open Lexing

/-- Both sides stand in a mode: the lexer is in it, and the rules are open that it leaves open. -/
def Progress.StandsIn (progress : Progress) (mode : Mode) : Prop :=
  progress.document.mode = mode ∧
    progress.stack.getD Bundled.compiled.initialStack = Bundled.stackOf mode

namespace Reconciler

variable {reconciler : Reconciler} {progress : Progress} {line : Text} {lines : List Text}
  {mode mode' : Mode} {count number : Nat} {spans : List (Nat × Nat)}

/-- A line of pieces reconciles, with one token for each of them on both sides. -/
theorem step_pieces (hgrammar : reconciler.grammar = Bundled.compiled)
    (hoffsets : reconciler.offsets = .countOnly) (h : progress.StandsIn mode)
    (hline : PieceLine mode line count mode') (hreturn : '\r' ∉ line) :
    ∃ report next, reconciler.step progress line = .ok (report, next) ∧
      report.line = progress.lines + 1 ∧ report.grammarTokens.length = count ∧
      report.referenceTokens.length = count ∧
      next.StandsIn mode' ∧ next.lines = progress.lines + 1 := by
  obtain ⟨hmode, hstack⟩ := h
  have htext : line.dropReturn = line := Text.dropReturn_of_not_mem hreturn
  obtain ⟨tokens, hlex, htokens⟩ := hline.lexLine (progress.document.lines + 1)
  obtain ⟨hopen, merged, hmerged, hcount⟩ := Bundled.normalize_pieces hline
  have hresult : reconciler.grammar.tokenizeLine line.dropReturn progress.stack =
      Bundled.compiled.tokenizeLine line (some (Bundled.stackOf mode)) := by
    rw [hgrammar, htext, ← hstack]
    rfl
  have happend : progress.document.append line = .ok
      ⟨progress.document.tokens ++ tokens.map (·.shift progress.document.nextStart), mode',
        progress.document.lines + 1, progress.document.nextStart + line.width + 1⟩ := by
    rw [Document.append, htext, hmode, hlex]
    rfl
  have hlength : (tokens.map (·.shift progress.document.nextStart)).length = count := by
    rw [List.length_map, htokens]
  refine ⟨_, _, step_ok_iff.mpr ⟨merged, hresult ▸ hmerged, _, happend, ?_, rfl⟩, rfl, hcount, ?_,
    ⟨rfl, ?_⟩, rfl⟩
  · rw [check, hoffsets]
    dsimp only
    rw [Document.tokensSince_tokenCount, Comparison.checkCount, if_pos (hcount.trans hlength.symm)]
    rfl
  · dsimp only
    rw [Document.tokensSince_tokenCount, hlength]
  · rw [hresult]
    exact hopen

/-- Lines of pieces reconcile one after another. -/
theorem steps_pieces (hgrammar : reconciler.grammar = Bundled.compiled)
    (hoffsets : reconciler.offsets = .countOnly) (h : progress.StandsIn mode)
    (hnumber : progress.lines + 1 = number) (hlines : PieceLines spans number mode lines)
    (hreturn : ∀ line ∈ lines, '\r' ∉ line) :
    ∃ reports, reconciler.steps progress lines = .ok reports ∧
      reports.map (·.line) = List.range' number lines.length ∧
      ∀ report ∈ reports, report.grammarTokens.length = touching spans report.line ∧
        report.referenceTokens.length = touching spans report.line := by
  induction hlines generalizing progress with
  | nil => exact ⟨[], rfl, rfl, fun report hmem => absurd hmem List.not_mem_nil⟩
  | cons hline _ ih =>
      obtain ⟨hfirst, hlater⟩ := List.forall_mem_cons.mp hreturn
      obtain ⟨report, next, hstep, hreport, hgrammarCount, hreferenceCount, hnext, hcount⟩ :=
        step_pieces hgrammar hoffsets h hline hfirst
      obtain ⟨reports, hsteps, hnumbers, hall⟩ := ih hnext (by rw [hcount, hnumber]) hlater
      rw [hnumber] at hreport
      refine ⟨report :: reports, ?_, ?_, List.forall_mem_cons.mpr ⟨?_, hall⟩⟩
      · exact steps_cons_ok_iff.mpr ⟨report, next, reports, hstep, hsteps, rfl⟩
      · rw [List.map_cons, hreport, hnumbers, List.length_cons, List.range'_succ]
      · rw [hreport]
        exact ⟨hgrammarCount, hreferenceCount⟩

/-- A text of pieces reconciles when only counts are compared, whatever the table. On each line both
sides have one token for each piece that stands on it: an item, a line comment, a block comment, or
a part of one. -/
theorem document_pieces (reconciler : Reconciler)
    (hgrammar : Bundled.grammar = .ok reconciler.grammar)
    (hoffsets : reconciler.offsets = .countOnly) {text : Text} {spans : List (Nat × Nat)}
    (hreturn : '\r' ∉ text) (h : Pieces true 1 text spans) :
    ∃ reports, reconciler.document text = .ok reports ∧
      reports.map (·.line) = List.range' 1 text.splitLines.length ∧
      ∀ report ∈ reports, report.grammarTokens.length = touching spans report.line ∧
        report.referenceTokens.length = touching spans report.line := by
  have hcompiled : reconciler.grammar = Bundled.compiled :=
    (Except.ok.inj (Bundled.grammar_eq.symm.trans hgrammar)).symm
  have hstart : Progress.start.StandsIn .default := ⟨rfl, rfl⟩
  refine steps_pieces hcompiled hoffsets hstart rfl h.splitLines fun line hmem hc => ?_
  exact hreturn (Text.mem_of_mem_splitLines hmem hc)

/-- A comment over three lines, one of which is empty, between items and a line comment. -/
theorem document_pieces_comment :
    ∃ table reports, ClassificationTable.standard = .ok table ∧
      document { grammar := Bundled.compiled, table }
        ['n', ' ', '/', '*', 'a', '\n', '\n', 'b', '*', '/', ' ', '1', '\t', '/', '/', 'c', '\n'] =
          .ok reports ∧
      reports.map (·.grammarTokens.length) = [2, 1, 3, 0] ∧
      reports.map (·.referenceTokens.length) = [2, 1, 3, 0] := by
  have hcomment : Pieces false 3 [' ', '1', '\t', '/', '/', 'c', '\n'] [(3, 3), (3, 3)] :=
    .blank (Or.inl rfl) (@Pieces.item _ _ _ ['1'] _ _
      (.number (@IsNumber.whole ['1'] [] ⟨by simp, by decide⟩ (Or.inl rfl)))
      (.blank (Or.inr rfl) (@Pieces.lineComment _ ['c'] ['\n'] _ (by decide) (Or.inr rfl)
        (.feed .done))))
  have htext : Pieces true 1
      ['n', ' ', '/', '*', 'a', '\n', '\n', 'b', '*', '/', ' ', '1', '\t', '/', '/', 'c', '\n']
      [(1, 1), (1, 3), (3, 3), (3, 3)] :=
    @Pieces.item _ _ _ ['n'] _ _
      (@Item.identifier ['n'] [] (by decide) (by decide) (by decide) .nil)
      (.blank (Or.inl rfl) (@Pieces.comment _ ['a', '\n', '\n', 'b'] _ _ (by decide) hcomment))
  cases htable : ClassificationTable.standard with
  | error fault =>
      have hok : ClassificationTable.standard.isOk = true := by decide
      rw [htable] at hok
      cases hok
  | ok table =>
      obtain ⟨reports, hreports, hnumbers, hcounts⟩ := document_pieces
        { grammar := Bundled.compiled, table } Bundled.grammar_eq rfl (by decide) htext
      have hmap : ∀ side : StepReport → Nat,
          (∀ report ∈ reports, side report = touching [(1, 1), (1, 3), (3, 3), (3, 3)] report.line) →
          reports.map side = [2, 1, 3, 0] := by
        intro side hside
        rw [List.map_congr_left hside]
        have hlines : reports.map (·.line) = [1, 2, 3, 4] := hnumbers
        have htouching : [1, 2, 3, 4].map (touching [(1, 1), (1, 3), (3, 3), (3, 3)]) =
            [2, 1, 3, 0] := by decide
        rw [← htouching, ← hlines, List.map_map]
        rfl
      exact ⟨table, reports, rfl, hreports, hmap _ fun report hmem => (hcounts report hmem).1,
        hmap _ fun report hmem => (hcounts report hmem).2⟩

end Reconciler

end TokenConcord
