import TokenConcord.Proofs.Bundled.Compiled
import TokenConcord.Proofs.Lexing.LineEndings
import TokenConcord.Proofs.Reconcile.Steps

/-!
# Documents with and without carriage returns

Both sides read a line without the carriage return at its end, so a document with carriage returns
in front of its line feeds reconciles just as the one without, as long as only counts are compared.
-/

namespace TokenConcord

open Lexing (Document)
open Outcome

/-- The reports are the same but for the positions of the lexer's tokens, which are moved by the
number of lines before. -/
structure StepReport.SameLine (report report' : StepReport) : Prop where
  line : report'.line = report.line
  text : report'.text = report.text
  grammarTokens : report'.grammarTokens = report.grammarTokens
  referenceTokens : report'.referenceTokens =
    report.referenceTokens.map (·.shift (report.line - 1))

/-- Both runs stand behind the same lines, and in the second one each of them was one byte
longer. -/
structure Progress.SpacedOut (progress progress' : Progress) : Prop where
  stack : progress'.stack = progress.stack
  lines : progress'.lines = progress.lines
  read : progress.document.lines = progress.lines
  document : progress.document.SpacedOut progress'.document

namespace Reconciler

variable {reconciler : Reconciler} {progress progress' : Progress} {line line' : Text}
  {lines lines' : List Text}

/-- Where counts are compared, the positions of the lexer's tokens do not matter. -/
theorem check_countOnly (hoffsets : reconciler.offsets = .countOnly) (source : Text)
    (units : List ScopedToken) (table : ClassificationTable) {tokens tokens' : List Lexing.Token}
    (h : tokens'.length = tokens.length) :
    reconciler.check ⟨source, units, tokens', table⟩ =
      reconciler.check ⟨source, units, tokens, table⟩ := by
  simp only [check, hoffsets, Comparison.checkCount, h]

/-- A step over a line is the same with and without a carriage return behind it, and leaves the
same open. -/
theorem step_sameLine (hoffsets : reconciler.offsets = .countOnly)
    (h : progress.SpacedOut progress') (hline : line'.dropReturn = line.dropReturn) :
    Alike (fun result result' => result.1.SameLine result'.1 ∧
        (line'.width = line.width + 1 → result.2.SpacedOut result'.2))
      (reconciler.step progress line) (reconciler.step progress' line') := by
  rw [step_eq, step_eq, hline, h.stack, h.lines]
  refine (Alike.refl (fun _ => rfl) _).bind fun units units' heq => ?_
  subst heq
  refine (h.document.append hline).attach.mapError _ |>.bind fun document document' happends => ?_
  obtain ⟨happend, _, hgrows, hspaced⟩ := happends
  dsimp only
  rw [hgrows.added, check_countOnly hoffsets _ _ _ (List.length_map _)]
  refine (Alike.refl (fun _ => rfl) _).bind fun _ _ _ => .ok ⟨⟨rfl, rfl, rfl, ?_⟩, fun hwidth => ?_⟩
  · rw [h.read]
    rfl
  · obtain ⟨lexed, _, rfl⟩ := Document.append_ok_iff.mp happend
    exact ⟨rfl, rfl, congrArg (· + 1) h.read, hspaced hwidth⟩

/-- Lines reconcile just as they do with carriage returns behind all but the last. -/
theorem steps_sameLine (hoffsets : reconciler.offsets = .countOnly)
    (h : progress.SpacedOut progress') (hlines : Text.Returned lines lines')
    (hreturn : ∀ line ∈ lines, '\r' ∉ line) :
    Alike (List.Forall₂ StepReport.SameLine) (reconciler.steps progress lines)
      (reconciler.steps progress' lines') := by
  induction hlines generalizing progress progress' with
  | last line =>
      rw [steps, steps]
      refine (step_sameLine hoffsets h rfl).bind fun result result' hresults => ?_
      exact .ok (.cons hresults.1 .nil)
  | cons line _ ih =>
      obtain ⟨hfirst, hreturn⟩ := List.forall_mem_cons.mp hreturn
      have hline : (line ++ ['\r']).dropReturn = line.dropReturn := by
        rw [Text.dropReturn_append_return, Text.dropReturn_of_not_mem hfirst]
      rw [steps, steps]
      refine (step_sameLine hoffsets h hline).bind fun result result' hresults => ?_
      obtain ⟨hreport, hspaced⟩ := hresults
      have hrest := ih (hspaced (Text.width_append line ['\r'])) hreturn
      exact hrest.bind fun later later' hlater => .ok (.cons hreport hlater)

/-- Carriage returns in front of all line feeds of a text change no more than positions. The lexer
fails with the same error, or gives as many lines, the same kinds and the same mode, with the tokens
of each line moved by the number of lines before it. When counts are compared, reconciling fails
with the same fault, or gives the same reports, up to the same move of the lexer's tokens. -/
theorem document_withReturns {text : Text} (h : '\r' ∉ text) :
    Alike (fun document document' =>
        Document.SameLines text.splitLines (Text.withReturns text).splitLines document document' ∧
          document'.tokens.map (·.kind) = document.tokens.map (·.kind))
      (Document.ofText text) (Document.ofText (Text.withReturns text)) ∧
    ∀ reconciler : Reconciler, reconciler.offsets = .countOnly →
      Alike (List.Forall₂ StepReport.SameLine) (reconciler.document text)
        (reconciler.document (Text.withReturns text)) := by
  refine ⟨(Document.ofText_sameLines h).mono fun _ _ hsame => ⟨hsame, hsame.kinds⟩,
    fun reconciler hoffsets => ?_⟩
  have hstart : Progress.start.SpacedOut Progress.start := ⟨rfl, rfl, rfl, rfl, rfl, rfl⟩
  refine steps_sameLine hoffsets hstart (Text.splitLines_withReturns text) ?_
  exact fun line hmem hc => h (Text.mem_of_mem_splitLines hmem hc)

/-- A comment that is open over three lines, one of which is empty. -/
theorem document_withReturns_comment :
    let text : Text := ['/', '*', '\n', '\n', 'a']
    let reconciler : Reconciler := { grammar := Bundled.compiled, table := .empty }
    ∃ document document' reports reports', Document.ofText text = .ok document ∧
      Document.ofText ['/', '*', '\r', '\n', '\r', '\n', 'a'] = .ok document' ∧
      document.tokens = [⟨.multilineCommentStart, 0, 2⟩, ⟨.multilineCommentContent, 3, 3⟩,
        ⟨.multilineCommentContent, 4, 5⟩] ∧
      document'.tokens = [⟨.multilineCommentStart, 0, 2⟩, ⟨.multilineCommentContent, 4, 4⟩,
        ⟨.multilineCommentContent, 6, 7⟩] ∧
      document'.tokens.map (·.kind) = document.tokens.map (·.kind) ∧
      reconciler.document text = .ok reports ∧
      reconciler.document ['/', '*', '\r', '\n', '\r', '\n', 'a'] = .ok reports' ∧
      List.Forall₂ StepReport.SameLine reports reports' := by
  intro text reconciler
  have hreturns : Text.withReturns text =
      ['/', '*', '\r', '\n', '\r', '\n', 'a'] := by decide
  have hlexed : (Document.ofText text).map (·.tokens) = .ok [⟨.multilineCommentStart, 0, 2⟩,
      ⟨.multilineCommentContent, 3, 3⟩, ⟨.multilineCommentContent, 4, 5⟩] := by decide
  have hlexed' : (Document.ofText (Text.withReturns text)).map (·.tokens) =
      .ok [⟨.multilineCommentStart, 0, 2⟩, ⟨.multilineCommentContent, 4, 4⟩,
        ⟨.multilineCommentContent, 6, 7⟩] := by decide
  have hok : (reconciler.document (Text.withReturns text)).isOk = true := by decide
  obtain ⟨hdocuments, hruns⟩ := @document_withReturns text (by decide)
  obtain ⟨document, document', hdocument, hdocument', _, hkinds⟩ := hdocuments.exists_ok (by decide)
  obtain ⟨reports, reports', hreports, hreports', hlines⟩ := (hruns reconciler rfl).exists_ok hok
  rw [hdocument] at hlexed
  rw [hdocument'] at hlexed'
  rw [hreturns] at hdocument' hreports'
  exact ⟨document, document', reports, reports', hdocument, hdocument', Except.ok.inj hlexed,
    Except.ok.inj hlexed', hkinds, hreports, hreports', hlines⟩

end Reconciler

end TokenConcord
