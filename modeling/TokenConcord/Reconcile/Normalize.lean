import TokenConcord.Grammar.Token

/-!
# Normalizing grammar tokens

The grammar reports finer tokens than the reference lexer. Normalizing turns the tokens of
one line into one token per lexical unit: blanks, which carry the root scope alone, are
dropped, and the parts of a quoted identifier, a string or a block comment become one token.
A token made in this way is flagged and taken as it is by a further run.
-/

namespace TokenConcord

/-! ## Labels -/

namespace Label

/-- End of every label that names one scope. -/
def nameEnding : String := ".powerquery"

def string : String := "string.quoted.double.powerquery"

def stringBegin : String := "punctuation.definition.string.begin.powerquery"

def stringEnd : String := "punctuation.definition.string.end.powerquery"

def identifier : String := "entity.name.powerquery"

def quotedIdentifierBegin : String :=
  "punctuation.definition.quotedidentifier.begin.powerquery"

def quotedIdentifierEnd : String := "punctuation.definition.quotedidentifier.end.powerquery"

def blockComment : String := "comment.block.powerquery"

def blockCommentEnd : String := "punctuation.definition.comment.end.powerquery"

end Label

/-! ## Faults -/

/-- A lexical unit of several tokens that has to be complete. -/
inductive Compound where
  | quotedIdentifier | string
  deriving DecidableEq, Repr

/-- The unit as reported to the user. -/
def Compound.name : Compound → String
  | quotedIdentifier => "quoted identifier"
  | string => "string"

/-- Why the tokens of a line make up no units. Positions count the tokens of the line. -/
inductive NormalizeError where
  /-- The line ends before the unit does. -/
  | exhausted (compound : Compound) (openedAt : Nat) (expected : String)
  /-- A token does not carry the label that its place in the unit asks for. -/
  | mislabeled (compound : Compound) (openedAt index : Nat) (expected found : String)
  deriving DecidableEq, Repr

namespace NormalizeError

/-- The fault as reported to the user. -/
def message : NormalizeError → String
  | exhausted compound openedAt expected =>
      s!"{compound.name} opened by token {openedAt} is cut short: " ++
        s!"expected a token carrying {expected}"
  | mislabeled compound openedAt index expected found =>
      s!"{compound.name} opened by token {openedAt}: " ++
        s!"token {index} should carry {expected}, found [{found}]"

end NormalizeError

namespace Normalize

/-- The fault of a token that lacks the expected label. -/
def mislabeled (compound : Compound) (openedAt index : Nat) (expected : String)
    (token : ScopedToken) : NormalizeError :=
  .mislabeled compound openedAt index expected (Text.joinWith " " token.scopes)

/-! ## Merging

Each function merges the opener, which stands at `openedAt`, with tokens behind it, and says
with how many. -/

/-- A quoted identifier is an opener, one token of content and a closer. It takes the scopes
of its content. -/
def quotedIdentifier (openedAt : Nat) (opener : ScopedToken) :
    List ScopedToken → Except NormalizeError (ScopedToken × Nat)
  | [] => .error (.exhausted .quotedIdentifier openedAt Label.identifier)
  | content :: tokens =>
      if content.innermost? = some Label.identifier then
        match tokens with
        | [] => .error (.exhausted .quotedIdentifier openedAt Label.quotedIdentifierEnd)
        | closer :: _ =>
            if closer.hasScope Label.quotedIdentifierEnd then
              .ok (⟨opener.start, closer.stop, content.scopes, true⟩, 2)
            else
              .error (mislabeled .quotedIdentifier openedAt (openedAt + 2)
                Label.quotedIdentifierEnd closer)
      else
        .error (mislabeled .quotedIdentifier openedAt (openedAt + 1) Label.identifier content)

/-- The end of a string whose tokens from number `index` on are given, and the number of
tokens up to there. -/
def stringEnd (openedAt index : Nat) : List ScopedToken → Except NormalizeError (Nat × Nat)
  | [] => .error (.exhausted .string openedAt Label.stringEnd)
  | token :: tokens =>
      if token.hasScope Label.stringEnd then .ok (token.stop, 1)
      else if token.hasScope Label.string then do
        let (stop, count) ← stringEnd openedAt (index + 1) tokens
        return (stop, count + 1)
      else .error (mislabeled .string openedAt index Label.string token)

/-- A string runs to its closer through tokens that carry its label. It keeps the root scope
and the label. -/
def string (openedAt : Nat) (opener : ScopedToken) (tokens : List ScopedToken) :
    Except NormalizeError (ScopedToken × Nat) := do
  let (stop, count) ← stringEnd openedAt (openedAt + 1) tokens
  return (⟨opener.start, stop, [opener.scopes.headD "", Label.string], true⟩, count)

/-- How far a comment that has come to `stop` goes on, and over how many tokens: through the
adjoining comment tokens up to a closer. -/
def commentEnd (stop : Nat) : List ScopedToken → Nat × Nat
  | [] => (stop, 0)
  | token :: tokens =>
      if token.merged || token.start != stop || !token.hasScope Label.blockComment then
        (stop, 0)
      else if token.hasScope Label.blockCommentEnd then (token.stop, 1)
      else
        let (stop, count) := commentEnd token.stop tokens
        (stop, count + 1)

/-- The scopes down to the label of a comment. -/
def commentScopes : List String → List String
  | [] => []
  | scope :: scopes =>
      if scope = Label.blockComment then [scope] else scope :: commentScopes scopes

/-- A block comment runs to its closer, or as far as its tokens adjoin: it may go on on the
next line. It keeps the scopes down to its label. -/
def blockComment (opener : ScopedToken) (tokens : List ScopedToken) : ScopedToken × Nat :=
  let (stop, count) :=
    if opener.hasScope Label.blockCommentEnd then (opener.stop, 0)
    else commentEnd opener.stop tokens
  (⟨opener.start, stop, commentScopes opener.scopes, true⟩, count)

/-- The unit that a token starts, and how many tokens behind it belong to the unit. A token
without an opener's label is a unit of its own. -/
def unit (index : Nat) (token : ScopedToken) (tokens : List ScopedToken) :
    Except NormalizeError (ScopedToken × Nat) :=
  if token.merged then .ok (token, 0)
  else if token.hasScope Label.quotedIdentifierBegin then quotedIdentifier index token tokens
  else if token.hasScope Label.stringBegin then string index token tokens
  else if token.hasScope Label.blockComment then .ok (blockComment token tokens)
  else .ok (token, 0)

/-- Units of the tokens from number `index` on, the first `skip` of which belong to a unit
found before. -/
def units (index skip : Nat) :
    List ScopedToken → Except NormalizeError (List ScopedToken)
  | [] => .ok []
  | token :: tokens =>
      match skip with
      | skip + 1 => units (index + 1) skip tokens
      | 0 =>
          if token.scopes.length ≤ 1 then units (index + 1) 0 tokens
          else do
            let (merged, count) ← unit index token tokens
            return merged :: (← units (index + 1) count tokens)

end Normalize

/-- One token for each lexical unit of a line. -/
def normalize (tokens : List ScopedToken) : Except NormalizeError (List ScopedToken) :=
  Normalize.units 0 0 tokens

end TokenConcord
