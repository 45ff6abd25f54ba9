import TokenConcord.Proofs.Outcome
import TokenConcord.Reconcile.Incremental

/-!
# Steps of a run

A step succeeds when the tokens of its line normalize, the line is lexed, and the two streams
compare. A run over some lines and more behind them is the run over the first ones, and then the
run over the others from where both sides stand by then.
-/

namespace TokenConcord.Reconciler

open Outcome

variable {reconciler : Reconciler} {progress : Progress} {line : Text} {lines : List Text}

/-- Where both sides stand behind some lines that all reconcile. -/
def after (reconciler : Reconciler) (progress : Progress) (lines : List Text) :
    Except ReconcileError Progress :=
  lines.foldlM (fun progress line => (reconciler.step progress line).map (·.2)) progress

/-- What is compared after a line. -/
def check (reconciler : Reconciler) (comparison : Comparison) : Except ReconcileError Unit :=
  match reconciler.offsets with
  | .countOnly => comparison.checkCount.mapError .equivalence
  | .raw => comparison.checkSame

theorem step_eq (reconciler : Reconciler) (progress : Progress) (line : Text) :
    reconciler.step progress line = (do
      let raw := reconciler.grammar.tokenizeLine line.dropReturn progress.stack
      let units ← (normalize raw.tokens).mapError .structural
      let document ← (progress.document.append line).mapError .lex
      let added := document.tokensSince progress.document.tokenCount
      reconciler.check ⟨line.dropReturn, units, added, reconciler.table⟩
      return (⟨progress.lines + 1, line.dropReturn, units, added⟩,
        ⟨some raw.stack, document, progress.lines + 1⟩)) := by
  unfold step check
  cases reconciler.offsets <;> rfl

/-- A step succeeds if each of its parts does, reports what they give, and goes on with what
both sides leave open. -/
theorem step_ok_iff {result : StepReport × Progress} :
    reconciler.step progress line = .ok result ↔
      ∃ units, normalize
          (reconciler.grammar.tokenizeLine line.dropReturn progress.stack).tokens = .ok units ∧
        ∃ document, progress.document.append line = .ok document ∧
          reconciler.check ⟨line.dropReturn, units,
            document.tokensSince progress.document.tokenCount, reconciler.table⟩ = .ok () ∧
          result = (⟨progress.lines + 1, line.dropReturn, units,
              document.tokensSince progress.document.tokenCount⟩,
            ⟨some (reconciler.grammar.tokenizeLine line.dropReturn progress.stack).stack, document,
              progress.lines + 1⟩) := by
  simp only [step_eq, bind_ok_iff, mapError_ok_iff, pure_ok_iff]
  constructor
  · rintro ⟨units, hunits, document, hdocument, _, hcheck, rfl⟩
    exact ⟨units, hunits, document, hdocument, hcheck, rfl⟩
  · rintro ⟨units, hunits, document, hdocument, hcheck, rfl⟩
    exact ⟨units, hunits, document, hdocument, (), hcheck, rfl⟩

theorem after_cons_ok_iff {last : Progress} :
    reconciler.after progress (line :: lines) = .ok last ↔
      ∃ report next, reconciler.step progress line = .ok (report, next) ∧
        reconciler.after next lines = .ok last := by
  rw [after, List.foldlM_cons, bind_ok_iff]
  constructor
  · rintro ⟨next, hnext, hlast⟩
    cases hstep : reconciler.step progress line with
    | error fault => rw [hstep] at hnext; cases hnext
    | ok result =>
        rw [hstep] at hnext
        cases hnext
        exact ⟨result.1, result.2, rfl, hlast⟩
  · rintro ⟨report, next, hstep, hlast⟩
    exact ⟨next, by rw [hstep]; rfl, hlast⟩

theorem steps_cons_ok_iff {reports : List StepReport} :
    reconciler.steps progress (line :: lines) = .ok reports ↔
      ∃ report next later, reconciler.step progress line = .ok (report, next) ∧
        reconciler.steps next lines = .ok later ∧ reports = report :: later := by
  rw [steps, bind_ok_iff]
  constructor
  · rintro ⟨⟨report, next⟩, hstep, h⟩
    obtain ⟨later, hlater, hreports⟩ := bind_ok_iff.mp h
    exact ⟨report, next, later, hstep, hlater, (pure_ok_iff.mp hreports).symm⟩
  · rintro ⟨report, next, later, hstep, hlater, rfl⟩
    exact ⟨(report, next), hstep, bind_ok_iff.mpr ⟨later, hlater, rfl⟩⟩

/-- Lines reconcile one after another exactly if each of them reconciles behind those before. -/
theorem steps_isOk_iff (lines : List Text) :
    (∃ reports, reconciler.steps progress lines = .ok reports) ↔
      ∃ last, reconciler.after progress lines = .ok last := by
  induction lines generalizing progress with
  | nil => exact ⟨fun _ => ⟨progress, rfl⟩, fun _ => ⟨[], rfl⟩⟩
  | cons line lines ih =>
      constructor
      · rintro ⟨reports, h⟩
        obtain ⟨report, next, later, hstep, hlater, -⟩ := steps_cons_ok_iff.mp h
        obtain ⟨last, hlast⟩ := ih.mp ⟨later, hlater⟩
        exact ⟨last, after_cons_ok_iff.mpr ⟨report, next, hstep, hlast⟩⟩
      · rintro ⟨last, h⟩
        obtain ⟨report, next, hstep, hlast⟩ := after_cons_ok_iff.mp h
        obtain ⟨later, hlater⟩ := ih.mpr ⟨last, hlast⟩
        exact ⟨_, steps_cons_ok_iff.mpr ⟨report, next, later, hstep, hlater, rfl⟩⟩

/-- A run over more lines begins with the run over the first of them. -/
theorem steps_append (more : List Text) :
    reconciler.steps progress (lines ++ more) = (do
      let earlier ← reconciler.steps progress lines
      let middle ← reconciler.after progress lines
      let later ← reconciler.steps middle more
      return earlier ++ later) := by
  induction lines generalizing progress with
  | nil =>
      rw [List.nil_append]
      change _ = (do return [] ++ (← reconciler.steps progress more))
      cases reconciler.steps progress more <;> rfl
  | cons line lines ih =>
      rw [List.cons_append, steps, steps, after, List.foldlM_cons]
      cases reconciler.step progress line with
      | error fault => rfl
      | ok result =>
          change (do return result.1 :: (← reconciler.steps result.2 (lines ++ more))) = (do
            let earlier ← (do return result.1 :: (← reconciler.steps result.2 lines))
            let middle ← reconciler.after result.2 lines
            let later ← reconciler.steps middle more
            return earlier ++ later)
          rw [ih]
          cases reconciler.steps result.2 lines with
          | error fault => rfl
          | ok earlier =>
              cases reconciler.after result.2 lines with
              | error fault => rfl
              | ok middle =>
                  simp only [bind, Except.bind]
                  cases reconciler.steps middle more <;> rfl

end TokenConcord.Reconciler
