import TokenConcord.Reconcile.Line

/-!
# Reports in plain text

Token streams with one token to a line, and the full account of a text that was expected to
reconcile and does not: the fault and what each side made of the text.
-/

namespace TokenConcord

/-- Grammar tokens, one to a line. -/
def renderScoped (tokens : List ScopedToken) : String :=
  Text.joinWith "\n" (tokens.map (·.render))

/-- A reference token as reported to the user. -/
def Lexing.Token.render (token : Lexing.Token) : String :=
  s!"{token.start}..{token.stop} {token.kind.name}"

/-- Reference tokens, one to a line. -/
def renderReference (tokens : List Lexing.Token) : String :=
  Text.joinWith "\n" (tokens.map (·.render))

/-- A sample document of several lines. -/
def sampleDocument : String :=
  "let\n    a = 1,\n    b = \"text\",\n    c = Text.From(a)\nin\n    c"

namespace Reconciler

/-- What the grammar makes of a text. -/
def describeGrammar (reconciler : Reconciler) (text : Text) : String :=
  let raw := (reconciler.grammar.tokenizeLine text).tokens
  match normalize raw with
  | .ok tokens => renderScoped tokens
  | .error fault => s!"(normalization failed: {fault.message})\n" ++ renderScoped raw

/-- What the reference lexer makes of a text. -/
def describeReference (text : Text) : String :=
  match Lexing.Document.ofText text with
  | .ok document => renderReference document.tokens
  | .error fault => s!"(lexing failed: {fault.message})"

/-- Reconcile a text as one line, with a full account of a failure. -/
def assertLine (reconciler : Reconciler) (text : Text) : Except String LineReport :=
  (reconciler.line text).mapError fun fault =>
    s!"{Text.quote text} does not reconcile: {fault.message}" ++
      "\n\ngrammar:\n" ++ reconciler.describeGrammar text ++
      "\n\nreference:\n" ++ describeReference text

/-- Reconcile a text line by line, with a full account of a failure. -/
def assertDocument (reconciler : Reconciler) (text : Text) :
    Except String (List StepReport) :=
  (reconciler.document text).mapError fun fault =>
    s!"document does not reconcile: {fault.message}\n\n" ++ String.ofList text

end Reconciler

end TokenConcord
