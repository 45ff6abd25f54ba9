import TokenConcord.Lexing.Line
import TokenConcord.Reconcile.Classification

/-!
# Comparing two token streams

The normalized tokens of the grammar are held against the tokens of the reference lexer for
the same text, place by place. All places that disagree are reported together; a kind that
the table does not list ends the comparison at once.
-/

namespace TokenConcord

open Lexing (Kind LexError)

/-- A place where the two streams disagree. -/
structure TokenMismatch where
  index : Nat
  /-- Text under the grammar's token, empty where the token does not fit the text. -/
  snippet : Text
  kind : Kind
  expectedLabel : String
  actualLabel : String
  /-- Ends of the reference token. -/
  expected : Nat × Nat
  /-- Ends of the grammar's token. -/
  actual : Nat × Nat
  deriving DecidableEq, Repr

/-- The place as reported to the user. -/
def TokenMismatch.render (m : TokenMismatch) : String :=
  s!"#{m.index} {Text.quote m.snippet} ({m.kind.name}): " ++
    s!"expected {m.expectedLabel} at {m.expected.1}..{m.expected.2}, " ++
    s!"found {m.actualLabel} at {m.actual.1}..{m.actual.2}"

/-- How two token streams differ. -/
inductive EquivalenceFault where
  /-- Their lengths differ. -/
  | count (grammar reference : Nat)
  | tokens (mismatches : List TokenMismatch)
  deriving DecidableEq, Repr

/-- The fault as reported to the user. -/
def EquivalenceFault.message : EquivalenceFault → String
  | count grammar reference =>
      s!"token count mismatch: grammar produced {grammar}, reference produced {reference}"
  | tokens mismatches =>
      s!"{mismatches.length} token(s) differ:\n" ++
        Text.joinWith "\n" (mismatches.map fun m => "  " ++ m.render)

/-- Why a text does not reconcile. -/
inductive ReconcileError where
  | structural (fault : NormalizeError)
  | mapping (fault : MappingError)
  | equivalence (fault : EquivalenceFault)
  | lex (fault : LexError)
  deriving DecidableEq, Repr

/-- The error as reported to the user. -/
def ReconcileError.message : ReconcileError → String
  | structural fault => "structural fault: " ++ fault.message
  | mapping fault => "mapping fault: " ++ fault.message
  | equivalence fault => "equivalence fault: " ++ fault.message
  | lex fault => "reference lexer failed: " ++ fault.message

/-- Two token streams for one text, and the table that relates them. -/
structure Comparison where
  /-- The text that the positions of the grammar's tokens refer to. -/
  source : Text
  grammarTokens : List ScopedToken
  referenceTokens : List Lexing.Token
  table : ClassificationTable

namespace Comparison

/-- Check that the streams are equally long. -/
def checkCount (c : Comparison) : Except EquivalenceFault Unit :=
  if c.grammarTokens.length = c.referenceTokens.length then .ok ()
  else .error (.count c.grammarTokens.length c.referenceTokens.length)

/-- How two tokens at one place disagree, if they do. -/
def mismatch? (source : Text) (index : Nat) (scope : ExpectedScope) (actual : ScopedToken)
    (expected : Lexing.Token) : Option TokenMismatch :=
  if scope.accepts actual.innermost && actual.start == expected.start
      && actual.stop == expected.stop then
    none
  else
    some {
      index
      snippet := (actual.text? source).getD []
      kind := expected.kind
      expectedLabel := scope.render
      actualLabel := actual.innermost
      expected := (expected.start, expected.stop)
      actual := (actual.start, actual.stop) }

/-- The places from number `index` on that disagree, as far as both streams reach. -/
def mismatches (source : Text) (table : ClassificationTable) (index : Nat) :
    List ScopedToken → List Lexing.Token → Except MappingError (List TokenMismatch)
  | actual :: actuals, expected :: expecteds => do
      let scope ← table.expected expected.kind
      let later ← mismatches source table (index + 1) actuals expecteds
      return (mismatch? source index scope actual expected).toList ++ later
  | _, _ => .ok []

/-- Check label, start and end at every place that both streams reach. -/
def checkOffsets (c : Comparison) : Except ReconcileError Unit :=
  match mismatches c.source c.table 0 c.grammarTokens c.referenceTokens with
  | .error fault => .error (.mapping fault)
  | .ok [] => .ok ()
  | .ok found => .error (.equivalence (.tokens found))

/-- Check the lengths, and then every place. -/
def checkSame (c : Comparison) : Except ReconcileError Unit := do
  c.checkCount.mapError .equivalence
  c.checkOffsets

end Comparison

end TokenConcord
