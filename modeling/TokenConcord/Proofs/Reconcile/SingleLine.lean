import TokenConcord.Proofs.Bundled.Compiled
import TokenConcord.Proofs.Lexing.Lines
import TokenConcord.Proofs.Reconcile.Steps
import TokenConcord.Reconcile.Line

/-!
# Documents of a single line

A text of one line reconciles alike as a line and as a document whose positions are compared. This
holds of texts without a carriage return at the end: a document leaves that to neither side, while
a text that is taken as one line leaves it to the grammar and keeps it from the lexer.
-/

namespace TokenConcord

open Lexing (Document IsLine)
open Outcome

/-- The run has one report, with the tokens of the line. -/
def ReportsLine (reports : List StepReport) (line : LineReport) : Prop :=
  ∃ report, reports = [report] ∧ report.grammarTokens = line.grammarTokens ∧
    report.referenceTokens = line.referenceTokens

namespace Reconciler

variable {reconciler : Reconciler} {text line : Text}

/-- A carriage return at the end of the first line has no effect on the tokens. -/
theorem append_tokens (hline : line.dropReturn = text.dropReturn) :
    Alike (fun document document' => document.tokens = document'.tokens)
      (Document.empty.append line) (Document.empty.append text) := by
  unfold Document.append
  rw [hline]
  refine (Alike.refl (fun _ => rfl) _).bind fun lexed lexed' heq => ?_
  subst heq
  exact .ok rfl

/-- The first step of a run over documents with positions compares just what is compared when the
line is taken without the carriage return that it may end in. -/
theorem step_alike_line (hoffsets : reconciler.offsets = .raw)
    (hnormalizes : reconciler.normalizes = true) (htext : IsLine line.dropReturn) :
    Alike (fun result report => result.1.grammarTokens = report.grammarTokens ∧
        result.1.referenceTokens = report.referenceTokens)
      (reconciler.step .start line) (reconciler.line line.dropReturn) := by
  have happend : Document.ofText line.dropReturn = Document.empty.append line.dropReturn := by
    rw [Document.ofText, htext.splitLines, Document.appendAll, List.foldlM_cons]
    exact bind_pure _
  rw [step_eq, Reconciler.line, hnormalizes, if_pos rfl, happend]
  refine (Alike.refl (fun _ => rfl) _).bind fun units units' heq => ?_
  subst heq
  refine (append_tokens htext.dropReturn.symm).mapError _ |>.bind fun document document' heq => ?_
  -- In front of the first step there are no tokens.
  have hadded : document.tokensSince Progress.start.document.tokenCount = document'.tokens := heq
  dsimp only
  rw [hadded, check, hoffsets]
  exact (Alike.refl (fun _ => rfl) _).bind fun _ _ _ => .ok ⟨rfl, rfl⟩

/-- A document of one line is that line without the carriage return that it may end in. -/
theorem document_alike_line (hoffsets : reconciler.offsets = .raw)
    (hnormalizes : reconciler.normalizes = true) (hline : '\n' ∉ line)
    (htext : IsLine line.dropReturn) :
    Alike ReportsLine (reconciler.document line) (reconciler.line line.dropReturn) := by
  have hstep := step_alike_line hoffsets hnormalizes htext
  rw [document, Text.splitLines_of_not_mem hline, steps]
  generalize reconciler.step .start line = stepped at hstep ⊢
  generalize reconciler.line line.dropReturn = reconciled at hstep ⊢
  cases hstep with
  | error fault => exact .error fault
  | ok htokens => exact .ok ⟨_, rfl, htokens⟩

/-- A text without a line feed that does not end in a carriage return reconciles as a document whose
positions are compared just when it reconciles as a line, with the same tokens on both sides, and
fails with the same fault. As a document it does so too with a carriage return behind it. -/
theorem document_line (hoffsets : reconciler.offsets = .raw)
    (hnormalizes : reconciler.normalizes = true) (h : IsLine text) :
    Alike ReportsLine (reconciler.document text) (reconciler.line text) ∧
      Alike ReportsLine (reconciler.document (text ++ ['\r'])) (reconciler.line text) := by
  have hdrop := h.dropReturn
  have hdrop' := Text.dropReturn_append_return text
  have hfeed : '\n' ∉ text ++ ['\r'] := by
    rw [List.mem_append, not_or]
    exact ⟨h.1, by decide⟩
  have hdocument := document_alike_line hoffsets hnormalizes h.1 (hdrop.symm ▸ h)
  have hdocument' := document_alike_line hoffsets hnormalizes hfeed (hdrop'.symm ▸ h)
  rw [hdrop] at hdocument
  rw [hdrop'] at hdocument'
  exact ⟨hdocument, hdocument'⟩

/-- A comment that is left open, as a line and as documents. -/
theorem document_line_comment :
    ∃ table report reports reports', ClassificationTable.standard = .ok table ∧
      let reconciler : Reconciler := { grammar := Bundled.compiled, table, offsets := .raw }
      IsLine ['/', '*'] ∧ reconciler.line ['/', '*'] = .ok report ∧
        reconciler.document ['/', '*'] = .ok reports ∧ ReportsLine reports report ∧
        reconciler.document ['/', '*', '\r'] = .ok reports' ∧ ReportsLine reports' report := by
  have hok : ClassificationTable.standard.toOption.map (fun table =>
      (line { grammar := Bundled.compiled, table, offsets := .raw } ['/', '*']).isOk) =
        some true := by
    decide
  cases htable : ClassificationTable.standard with
  | error fault => rw [htable] at hok; cases hok
  | ok table =>
      rw [htable] at hok
      have hreconciled := Option.some.inj hok
      have hline : IsLine ['/', '*'] := by decide
      obtain ⟨hdocument, hreturn⟩ := @document_line
        { grammar := Bundled.compiled, table, offsets := .raw } _ rfl rfl hline
      obtain ⟨reports, report, hreports, hreport, hlines⟩ := hdocument.exists_ok hreconciled
      obtain ⟨reports', _, hreports', hreport', hlines'⟩ := hreturn.exists_ok hreconciled
      obtain rfl := Except.ok.inj (hreport.symm.trans hreport')
      exact ⟨table, report, reports, reports', rfl, hline, hreport, hreports, hlines, hreports',
        hlines'⟩

/-- A carriage return at the end goes into the grammar's comment but not into the lexer's, so the
line does not reconcile, while the document of that line does. -/
theorem not_alike_of_return :
    ∃ table, ClassificationTable.standard = .ok table ∧
      let reconciler : Reconciler := { grammar := Bundled.compiled, table, offsets := .raw }
      '\n' ∉ ['/', '*', '\r'] ∧
        ¬ Alike ReportsLine (reconciler.document ['/', '*', '\r'])
          (reconciler.line ['/', '*', '\r']) := by
  have hoks : ClassificationTable.standard.toOption.map (fun table =>
      let reconciler : Reconciler := { grammar := Bundled.compiled, table, offsets := .raw }
      ((reconciler.document ['/', '*', '\r']).isOk, (reconciler.line ['/', '*', '\r']).isOk)) =
        some (true, false) := by
    decide
  cases htable : ClassificationTable.standard with
  | error fault => rw [htable] at hoks; cases hoks
  | ok table =>
      rw [htable] at hoks
      obtain ⟨hdocument, hline⟩ := Prod.mk.inj (Option.some.inj hoks)
      refine ⟨table, rfl, by decide, fun halike => ?_⟩
      rw [halike.isOk_eq, hline] at hdocument
      cases hdocument

end Reconciler

end TokenConcord
