import TokenConcord.Text.Basic

/-!
# Grammar tokens

A grammar token covers a stretch of a line and carries a list of scopes, the outermost
first. The first scope is that of the grammar, the last one is the most specific.
-/

namespace TokenConcord

/-- A stretch of a line with its scopes. -/
structure ScopedToken where
  start : Nat
  stop : Nat
  scopes : List String
  /-- Whether the token stands for several tokens of the grammar. -/
  merged : Bool := false
  deriving DecidableEq, Repr

namespace ScopedToken

/-- The most specific scope. -/
def innermost? (token : ScopedToken) : Option String := token.scopes.getLast?

/-- The most specific scope, or the empty text where there is none. -/
def innermost (token : ScopedToken) : String := token.innermost?.getD ""

/-- Whether a scope is among those of the token. -/
def hasScope (token : ScopedToken) (scope : String) : Bool := token.scopes.contains scope

/-- The part of a line that the token covers, if it lies in the line and ends between
characters. -/
def text? (token : ScopedToken) (line : Text) : Option Text :=
  line.slice? token.start token.stop

/-- The token as reported to the user. -/
def render (token : ScopedToken) : String :=
  s!"{token.start}..{token.stop} " ++ Text.joinWith " " token.scopes

end ScopedToken

end TokenConcord
