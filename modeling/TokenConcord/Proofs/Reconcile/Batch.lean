import TokenConcord.Proofs.Grammar.Coverage
import TokenConcord.Proofs.Lexing.History
import TokenConcord.Proofs.Reconcile.Steps

/-!
# Line by line and all at once

Reconciling a text line by line gives what both sides give for the whole text: a report for each
line, the tokens of the grammar with the rules that the lines before leave open, and over all
lines the tokens of the document. More lines behind a text change none of its reports, and no
fault either.
-/

namespace TokenConcord

open Lexing (Document)
open Outcome

/-- The rules open behind some lines. A carriage return at the end of a line is no part of what
is tokenized. -/
def Grammar.openBehind (grammar : Grammar) (stack : RuleStack) (lines : List Text) : RuleStack :=
  lines.foldl (fun stack line => (grammar.tokenizeLine line.dropReturn (some stack)).stack) stack

/-- The report of a line with a number, behind the rules left open. -/
structure StepReport.Describes (grammar : Grammar) (stack : RuleStack) (number : Nat)
    (line : Text) (report : StepReport) : Prop where
  number : report.line = number
  text : report.text = line.dropReturn
  grammarTokens : normalize (grammar.tokenizeLine line.dropReturn (some stack)).tokens =
    .ok report.grammarTokens

namespace Reconciler

variable {reconciler : Reconciler} {progress : Progress} {reports : List StepReport}

/-- The rules open before a line. -/
def openRules (reconciler : Reconciler) (progress : Progress) : RuleStack :=
  progress.stack.getD reconciler.grammar.initialStack

theorem step_describes {line : Text} {report : StepReport} {next : Progress}
    (h : reconciler.step progress line = .ok (report, next)) :
    report.Describes reconciler.grammar (reconciler.openRules progress) (progress.lines + 1)
        line ∧
      next.lines = progress.lines + 1 ∧
      reconciler.openRules next =
        (reconciler.grammar.tokenizeLine line.dropReturn
          (some (reconciler.openRules progress))).stack ∧
      progress.document.append line = .ok next.document ∧
      next.document.tokens = progress.document.tokens ++ report.referenceTokens := by
  obtain ⟨units, hunits, document, hdocument, -, hresult⟩ := step_ok_iff.mp h
  obtain ⟨rfl, rfl⟩ := Prod.mk.inj hresult
  obtain ⟨lexed, -, rfl⟩ := Document.append_ok_iff.mp hdocument
  refine ⟨⟨rfl, rfl, hunits⟩, rfl, rfl, hdocument, ?_⟩
  rw [Document.tokensSince_tokenCount]

/-- A run gives one report for each line, in order. -/
theorem steps_describes {lines : List Text}
    (h : reconciler.steps progress lines = .ok reports) :
    reports.length = lines.length ∧
      ∀ before line later, lines = before ++ line :: later →
        ∃ report, reports[before.length]? = some report ∧
          report.Describes reconciler.grammar
            (reconciler.grammar.openBehind (reconciler.openRules progress) before)
            (progress.lines + before.length + 1) line := by
  induction lines generalizing progress reports with
  | nil =>
      cases h
      refine ⟨rfl, fun before line later hlines => ?_⟩
      cases before <;> cases hlines
  | cons first lines ih =>
      obtain ⟨report, next, others, hstep, hothers, rfl⟩ := steps_cons_ok_iff.mp h
      obtain ⟨hreport, hnumber, hstack, -⟩ := step_describes hstep
      obtain ⟨hlength, hall⟩ := ih hothers
      refine ⟨congrArg (· + 1) hlength, fun before line later hlines => ?_⟩
      cases before with
      | nil =>
          cases hlines
          exact ⟨report, rfl, hreport⟩
      | cons head before =>
          obtain ⟨rfl, htail⟩ := List.cons.inj hlines
          obtain ⟨found, hfound, hdescribes⟩ := hall before line later htail
          refine ⟨found, hfound, ?_⟩
          rw [hnumber, hstack] at hdescribes
          rwa [Nat.add_assoc progress.lines, Nat.add_comm 1] at hdescribes

/-- Over all lines a run reports the tokens that the lines add to the document. -/
theorem steps_referenceTokens {lines : List Text}
    (h : reconciler.steps progress lines = .ok reports) :
    ∃ document, progress.document.appendAll lines = .ok document ∧
      document.tokens = progress.document.tokens ++ reports.flatMap (·.referenceTokens) := by
  induction lines generalizing progress reports with
  | nil =>
      cases h
      exact ⟨progress.document, rfl, (List.append_nil _).symm⟩
  | cons line lines ih =>
      obtain ⟨report, next, others, hstep, hothers, rfl⟩ := steps_cons_ok_iff.mp h
      obtain ⟨-, -, -, happend, htokens⟩ := step_describes hstep
      obtain ⟨document, hdocument, hall⟩ := ih hothers
      refine ⟨document, Document.appendAll_cons_ok_iff.mpr ⟨_, happend, hdocument⟩, ?_⟩
      rw [hall, htokens, List.flatMap_cons, List.append_assoc]

/-- What reconciles with more text behind it has reports that begin those of the whole. -/
theorem steps_prefix {lines more : List Text} {earlier : List StepReport}
    (hearlier : reconciler.steps progress lines = .ok earlier)
    (h : reconciler.steps progress (lines ++ more) = .ok reports) : earlier <+: reports := by
  rw [steps_append, hearlier] at h
  obtain ⟨_, hsome, h⟩ := bind_ok_iff.mp h
  cases hsome
  obtain ⟨middle, -, h⟩ := bind_ok_iff.mp h
  obtain ⟨later, -, h⟩ := bind_ok_iff.mp h
  exact ⟨later, pure_ok_iff.mp h⟩

/-- Reconciling line by line is reconciling all at once: a run that succeeds has one report for
each line of the text, with its number, its text and its normalized tokens, and over all lines
the tokens of the document. With more lines behind it, a text that reconciled keeps its reports
and one that did not keeps its fault. -/
theorem document_batch (reconciler : Reconciler) (text : Text) :
    (∀ reports, reconciler.document text = .ok reports →
      reports.length = text.splitLines.length ∧
        (∀ before line later, text.splitLines = before ++ line :: later →
          ∃ report, reports[before.length]? = some report ∧
            report.Describes reconciler.grammar
              (reconciler.grammar.openBehind reconciler.grammar.initialStack before)
              (before.length + 1) line) ∧
        ∃ document, Document.ofText text = .ok document ∧
          reports.flatMap (·.referenceTokens) = document.tokens) ∧
      ∀ more : Text,
        (∀ reports reports', reconciler.document text = .ok reports →
          reconciler.document (text ++ '\n' :: more) = .ok reports' → reports <+: reports') ∧
        ∀ fault, reconciler.document text = .error fault →
          reconciler.document (text ++ '\n' :: more) = .error fault := by
  refine ⟨fun reports h => ?_, fun more => ⟨fun reports reports' h hmore => ?_, fun fault h => ?_⟩⟩
  · obtain ⟨hlength, hlines⟩ := steps_describes h
    obtain ⟨document, hdocument, htokens⟩ := steps_referenceTokens h
    refine ⟨hlength, fun before line later hsplit => ?_, document, hdocument, htokens.symm⟩
    obtain ⟨report, hreport, hdescribes⟩ := hlines before line later hsplit
    refine ⟨report, hreport, ?_⟩
    rwa [Progress.start, Nat.zero_add] at hdescribes
  · rw [document, Text.splitLines_append_feed] at hmore
    exact steps_prefix h hmore
  · rw [document] at h
    rw [document, Text.splitLines_append_feed, steps_append, h]
    rfl

/-- Parentheses over two lines, without and with another line, and a line that does not
reconcile. -/
theorem document_batch_parentheses :
    let reconciler : Reconciler := { grammar := Grammar.parentheses, table := .empty }
    ∃ reports reports' fault,
      reconciler.document ['(', '\r', '\n', ')'] = .ok reports ∧
        reports.length = 2 ∧
        reconciler.document ['(', '\r', '\n', ')', '\n', '('] = .ok reports' ∧
        reports <+: reports' ∧
        reconciler.document [';'] = .error fault ∧
        reconciler.document [';', '\n', '('] = .error fault := by
  intro reconciler
  have hopen : (reconciler.document ['(', '\r', '\n', ')']).isOk = true := by decide
  have hmore : (reconciler.document ['(', '\r', '\n', ')', '\n', '(']).isOk = true := by decide
  have hother : (reconciler.document [';']).isOk = false := by decide
  cases hreports : reconciler.document ['(', '\r', '\n', ')'] with
  | error fault => rw [hreports] at hopen; cases hopen
  | ok reports =>
      cases hreports' : reconciler.document ['(', '\r', '\n', ')', '\n', '('] with
      | error fault => rw [hreports'] at hmore; cases hmore
      | ok reports' =>
          cases hfault : reconciler.document [';'] with
          | ok reports => rw [hfault] at hother; cases hother
          | error fault =>
              obtain ⟨hlines, hbegins⟩ := document_batch reconciler ['(', '\r', '\n', ')']
              obtain ⟨hlength, -⟩ := hlines reports hreports
              have hprefix := (hbegins ['(']).1 reports reports' hreports hreports'
              have hkept := ((document_batch reconciler [';']).2 ['(']).2 fault hfault
              exact ⟨reports, reports', fault, rfl, hlength, rfl, hprefix, rfl, hkept⟩

end Reconciler

end TokenConcord
