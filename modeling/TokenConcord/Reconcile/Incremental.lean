import TokenConcord.Grammar.Tokenize
import TokenConcord.Lexing.Document
import TokenConcord.Reconcile.Compare

/-!
# Reconciling line by line

Both tokenizers advance one line at a time: the grammar with the rules left open, the
reference lexer with the document so far. After each line the tokens that it added are
compared. The lexer counts from the start of the document and the grammar from the start of
the line, so positions agree on the first line alone and are compared on request only.
-/

namespace TokenConcord

open Lexing (Document)

/-- What is compared after each line. -/
inductive OffsetCheck where
  | countOnly
  /-- Positions too, as each side reports them. -/
  | raw
  deriving DecidableEq, Repr

/-- The check asked for by a flag. -/
def OffsetCheck.ofFlag (checkOffsets : Bool) : OffsetCheck :=
  if checkOffsets then raw else countOnly

/-- A reconciled line. -/
structure StepReport where
  /-- Number of the line, counted from one. -/
  line : Nat
  text : Text
  grammarTokens : List ScopedToken
  /-- Tokens of this line alone, with positions in the document. -/
  referenceTokens : List Lexing.Token
  deriving DecidableEq, Repr

/-- Where both sides stand between two lines. -/
structure Progress where
  /-- Rules left open, unless no line was read yet. -/
  stack : Option RuleStack
  document : Document
  lines : Nat
  deriving DecidableEq, Repr

/-- Both sides before the first line. -/
def Progress.start : Progress := ⟨none, .empty, 0⟩

/-- What reconciling needs beside the text. -/
structure Reconciler where
  grammar : Grammar
  table : ClassificationTable
  offsets : OffsetCheck := .countOnly
  /-- Whether the grammar's tokens are normalized before they are compared as one line. -/
  normalizes : Bool := true

namespace Reconciler

/-- Reconcile the next line. -/
def step (reconciler : Reconciler) (progress : Progress) (line : Text) :
    Except ReconcileError (StepReport × Progress) := do
  let text := line.dropReturn
  let raw := reconciler.grammar.tokenizeLine text progress.stack
  let grammarTokens ← (normalize raw.tokens).mapError .structural
  let document ← (progress.document.append line).mapError .lex
  let referenceTokens := document.tokensSince progress.document.tokenCount
  let comparison : Comparison := ⟨text, grammarTokens, referenceTokens, reconciler.table⟩
  match reconciler.offsets with
  | .countOnly => comparison.checkCount.mapError .equivalence
  | .raw => comparison.checkSame
  let number := progress.lines + 1
  return (⟨number, text, grammarTokens, referenceTokens⟩, ⟨some raw.stack, document, number⟩)

/-- Reconcile lines in turn, up to the first fault. -/
def steps (reconciler : Reconciler) (progress : Progress) :
    List Text → Except ReconcileError (List StepReport)
  | [] => .ok []
  | line :: lines => do
      let (report, progress) ← reconciler.step progress line
      return report :: (← reconciler.steps progress lines)

/-- Reconcile a text line by line. -/
def document (reconciler : Reconciler) (text : Text) :
    Except ReconcileError (List StepReport) :=
  reconciler.steps .start text.splitLines

end Reconciler

end TokenConcord
