import TokenConcord.Pattern.CharSet

/-!
# Patterns

A pattern describes stretches of text by concatenation, ordered choice, numbered groups and
repetition. Choices are ordered: what stands first is preferred. A repetition is a fixed number
of matches with a loop or a bounded number of further matches behind them.
-/

namespace TokenConcord

/-- A condition on a position, decided by the characters around it. Conditions on words come
with the characters that words are made of. -/
inductive Assertion where
  | textStart | textEnd
  /-- A line starts here. A carriage return may end a line too, alone or before a line feed. -/
  | lineStart (returns : Bool)
  /-- A line ends here. -/
  | lineEnd (returns : Bool)
  | wordBoundary (word : CharSet)
  | notWordBoundary (word : CharSet)
  | wordStart (word : CharSet)
  | wordEnd (word : CharSet)
  /-- No word character stands before the position. -/
  | wordStartHalf (word : CharSet)
  /-- No word character stands behind the position. -/
  | wordEndHalf (word : CharSet)
  deriving DecidableEq, Repr

/-- A pattern. -/
inductive Pattern where
  /-- Matches nothing and always. -/
  | empty
  /-- Matches one character of the set. -/
  | set (s : CharSet)
  | look (assertion : Assertion)
  | seq (p q : Pattern)
  /-- Matches what `p` matches, or else what `q` matches. -/
  | alt (p q : Pattern)
  /-- Matches what `p` matches and records where. -/
  | group (index : Nat) (p : Pattern)
  /-- A fixed number of matches of `p`, and at most a number of further ones. -/
  | bounded (least further : Nat) (p : Pattern) (greedy : Bool)
  /-- Any number of matches of `p`. -/
  | star (p : Pattern) (greedy : Bool)
  /-- A fixed number of matches of `p`, and one or more further ones. -/
  | plus (before : Nat) (p : Pattern) (greedy : Bool)
  deriving DecidableEq, Repr

namespace Pattern

/-- Whether the pattern may match without consuming a character. -/
def nullable : Pattern → Bool
  | empty => true
  | set _ => false
  | look _ => true
  | seq p q => p.nullable && q.nullable
  | alt p q => p.nullable || q.nullable
  | group _ p => p.nullable
  | bounded least _ p _ => least == 0 || p.nullable
  | star _ _ => true
  | plus _ p _ => p.nullable

/-- Whether some match of the pattern may consume a character. -/
def consumes : Pattern → Bool
  | empty => false
  | set _ => true
  | look _ => false
  | seq p q => p.consumes || q.consumes
  | alt p q => p.consumes || q.consumes
  | group _ p => p.consumes
  | bounded _ _ p _ => p.consumes
  | star p _ => p.consumes
  | plus _ p _ => p.consumes

/-- Whether the pattern may match in several ways from one position. -/
def branches : Pattern → Bool
  | empty => false
  | set _ => false
  | look _ => false
  | seq p q => p.branches || q.branches
  | alt _ _ => true
  | group _ p => p.branches
  | bounded _ further p _ => further != 0 || p.branches
  | star _ _ => true
  | plus _ _ _ => true

/-- A match of `p` or of nothing. -/
def optional (p : Pattern) (greedy : Bool) : Pattern := bounded 0 1 p greedy

/-- A match of `p` any number of times. A loop over a pattern that may match nothing is
entered at most once. -/
def many (p : Pattern) (greedy : Bool) : Pattern :=
  if p.nullable then optional (plus 0 p greedy) greedy else star p greedy

/-- At least `least` matches of `p`, and at most `most` where that is given. -/
def repeated (p : Pattern) (least : Nat) (most : Option Nat) (greedy : Bool) : Pattern :=
  match least, most with
  | 0, none => many p greedy
  | before + 1, none => plus before p greedy
  | 0, some 0 => empty
  | 1, some 1 => p
  | least, some most => bounded least (most - least) p greedy

/-- Patterns one after another. -/
def sequence : List Pattern → Pattern
  | [] => empty
  | [p] => p
  | p :: patterns => seq p (sequence patterns)

/-- Patterns to choose from, the preferred one first. -/
def choice : List Pattern → Pattern
  | [] => empty
  | [p] => p
  | p :: patterns => alt p (choice patterns)

end Pattern

end TokenConcord
