/-!
# Grammar artifacts

A grammar as it is written down: a scope name, a list of top-level patterns, and a
repository of rules that patterns refer to by name. Nothing here is checked; compiling an
artifact does that.
-/

namespace TokenConcord

/-- Names given to capture groups: the key as it is written and the name, ordered by key. -/
abbrev CaptureNames := List (String × Option String)

/-- A rule as it is written down. -/
structure RuleSource where
  name : Option String := none
  /-- Scopes for what lies between the two ends of a rule. -/
  contentName : Option String := none
  matchPattern : Option String := none
  beginPattern : Option String := none
  endPattern : Option String := none
  captures : CaptureNames := []
  beginCaptures : CaptureNames := []
  endCaptures : CaptureNames := []
  patterns : List RuleSource := []
  /-- The rule that stands in for this one. -/
  includeTarget : Option String := none
  /-- Whether the end pattern yields to the rule's own patterns at the same position. -/
  applyEndPatternLast : Bool := false

/-- A grammar as it is written down. -/
structure Artifact where
  name : Option String := none
  scopeName : String
  fileTypes : List String := []
  patterns : List RuleSource := []
  /-- Rules by name, ordered by name and without repetition. -/
  repository : List (String × RuleSource) := []

end TokenConcord
