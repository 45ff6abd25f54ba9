import TokenConcord.Reconcile.Incremental

/-!
# Reconciling a text as one line

Both tokenizers read a whole text at once, the grammar as one line, and have to agree on
number, labels and positions of all tokens.
-/

namespace TokenConcord

open Lexing (Document)

/-- Both token streams of a reconciled text. -/
structure LineReport where
  grammarTokens : List ScopedToken
  referenceTokens : List Lexing.Token
  deriving DecidableEq, Repr

namespace Reconciler

/-- Reconcile a text as one line. -/
def line (reconciler : Reconciler) (text : Text) : Except ReconcileError LineReport := do
  let raw := (reconciler.grammar.tokenizeLine text).tokens
  let grammarTokens ←
    if reconciler.normalizes then (normalize raw).mapError .structural else .ok raw
  let document ← (Document.ofText text).mapError .lex
  let referenceTokens := document.tokens
  Comparison.checkSame ⟨text, grammarTokens, referenceTokens, reconciler.table⟩
  return ⟨grammarTokens, referenceTokens⟩

end Reconciler

end TokenConcord
