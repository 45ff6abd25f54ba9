import TokenConcord.Grammar.Artifact
import TokenConcord.Grammar.Error
import TokenConcord.Pattern.Parser
import TokenConcord.Text.Words

/-!
# Compiling a grammar

A compiled grammar is a list of rules that refer to one another by position. The root comes
first and groups the top-level patterns; the repository follows in order of its names; the
rules written inside other rules come last, each behind the rules written inside it. Every
position is known before any rule is compiled, so rules may include each other freely.
-/

namespace TokenConcord

/-- Position of a rule in a compiled grammar. -/
abbrev RuleId := Nat

/-- Scopes for a capture group. -/
structure CaptureRule where
  index : Nat
  scopes : List String
  deriving DecidableEq, Repr

/-- What a compiled rule does. -/
inductive RuleKind where
  /-- Gives scopes to each match of a pattern. -/
  | single (pattern : Pattern) (captures : List CaptureRule)
  /-- Spans the text from a match of one pattern to a match of another. -/
  | span (opener closer : Pattern) (openerCaptures closerCaptures : List CaptureRule)
      (contentScopes : List String) (closerLast : Bool) (patterns : List RuleId)
  /-- Groups other rules. -/
  | container (patterns : List RuleId)

/-- A compiled rule. -/
structure Rule where
  /-- Where the artifact states the rule. -/
  location : String
  scopes : List String
  kind : RuleKind

/-- The rules tried inside a rule. -/
def Rule.patterns (rule : Rule) : List RuleId :=
  match rule.kind with
  | .single .. => []
  | .span _ _ _ _ _ _ patterns => patterns
  | .container patterns => patterns

/-- A compiled grammar. -/
structure Grammar where
  name : Option String
  scopeName : String
  fileTypes : List String
  rules : List Rule

namespace Grammar

/-- Position of the root. -/
def root : RuleId := 0

/-! ## Parts of a rule -/

/-- Scopes listed in a name. -/
def splitScopes (name : Option String) : List String :=
  match name with
  | none => []
  | some name => (Text.words name.toList).map String.ofList

/-- Value of a text of decimal digits. -/
def digitsValue (digits : Text) : Nat :=
  digits.foldl (fun value c => value * 10 + (c.toNat - '0'.toNat)) 0

/-- The number a capture key stands for: decimal digits behind an optional plus sign, with
a value of at most 64 bits. -/
def captureIndex? (key : String) : Option Nat :=
  let digits := match key.toList with
    | '+' :: digits => digits
    | digits => digits
  if !digits.isEmpty && digits.all Char.isDigit && digitsValue digits < Nat.pow 2 64 then
    some (digitsValue digits)
  else none

/-- Insert a capture rule behind all rules with the same or a smaller index. -/
def insertCapture (capture : CaptureRule) : List CaptureRule → List CaptureRule
  | [] => [capture]
  | other :: captures =>
      if other.index ≤ capture.index then other :: insertCapture capture captures
      else capture :: other :: captures

/-- Capture rules in order of their index; those of one index keep their order. -/
def sortCaptures (captures : List CaptureRule) : List CaptureRule :=
  captures.foldl (fun sorted capture => insertCapture capture sorted) []

/-- The capture rules of a rule, in order of their index. Groups without scopes are left
out, but their keys are checked. -/
def compileCaptures (location : String) (names : CaptureNames) :
    Except GrammarError (List CaptureRule) := do
  let captures ← names.mapM fun (key, name) =>
    match captureIndex? key with
    | some index => .ok (⟨index, splitScopes name⟩ : CaptureRule)
    | none => .error (.invalidCaptureKey location key)
  return sortCaptures (captures.filter fun capture => !capture.scopes.isEmpty)

/-- The pattern written as a text at a location. -/
def compilePattern (location pattern : String) : Except GrammarError Pattern :=
  match Pattern.parse pattern.toList with
  | .ok pattern => .ok pattern
  | .error cause => .error (.invalidPattern location cause)

/-- Position of the rule that an include names: the root, or a rule of the repository whose
names are given in order. -/
def resolve (names : List String) (location target : String) : Except GrammarError RuleId :=
  if target = "$self" ∨ target = "$base" then .ok root
  else
    match target.toList with
    | '#' :: name =>
        match names.idxOf? (String.ofList name) with
        | some index => .ok (index + 1)
        | none => .error (.unknownInclude location (String.ofList name))
    | _ => .error (.unsupportedInclude location target)

/-- The include of a pattern that is nothing but an include. -/
def pureInclude? (source : RuleSource) : Option String :=
  if source.matchPattern.isNone ∧ source.beginPattern.isNone then source.includeTarget
  else none

/-! ## Rules -/

mutual

/-- Compile a rule, with the rules written inside it, which take the positions from `next`
on. -/
def compileRule (names : List String) (location : String) (next : RuleId) :
    RuleSource → Except GrammarError (Rule × List Rule)
  | source@⟨_, _, _, _, _, _, _, _, patterns, _, _⟩ => do
      let scopes := splitScopes source.name
      match source.matchPattern, source.beginPattern, source.includeTarget with
      | some pattern, _, _ =>
          let pattern ← compilePattern location pattern
          let captures ← compileCaptures location source.captures
          return (⟨location, scopes, .single pattern captures⟩, [])
      | none, some opener, _ =>
          let closer ← match source.endPattern with
            | some closer => .ok closer
            | none => .error (.missingEnd location)
          let capturesFor (own : CaptureNames) := if own.isEmpty then source.captures else own
          let opener ← compilePattern s!"{location}.begin" opener
          let closer ← compilePattern s!"{location}.end" closer
          let openerCaptures ← compileCaptures location (capturesFor source.beginCaptures)
          let closerCaptures ← compileCaptures location (capturesFor source.endCaptures)
          let (ids, inner) ← compilePatterns names location 0 next patterns
          let kind := .span opener closer openerCaptures closerCaptures
            (splitScopes source.contentName) source.applyEndPatternLast ids
          return (⟨location, scopes, kind⟩, inner)
      | none, none, some target =>
          let id ← resolve names location target
          return (⟨location, scopes, .container [id]⟩, [])
      | none, none, none =>
          if patterns.isEmpty then .error (.emptyRule location)
          else
            let (ids, inner) ← compilePatterns names location 0 next patterns
            return (⟨location, scopes, .container ids⟩, inner)

/-- Compile the patterns of a rule from number `index` on, with the rules that they add,
which take the positions from `next` on. A pattern that is nothing but an include adds no
rule. -/
def compilePatterns (names : List String) (location : String) (index : Nat)
    (next : RuleId) : List RuleSource → Except GrammarError (List RuleId × List Rule)
  | [] => .ok ([], [])
  | source :: sources => do
      let here := s!"{location}.patterns[{index}]"
      match pureInclude? source with
      | some target =>
          let id ← resolve names here target
          let (ids, added) ← compilePatterns names location (index + 1) next sources
          return (id :: ids, added)
      | none =>
          let (rule, inner) ← compileRule names here next source
          let id := next + inner.length
          let (ids, added) ← compilePatterns names location (index + 1) (id + 1) sources
          return (id :: ids, inner ++ rule :: added)

end

/-- Compile the rules of a repository, with the rules written inside them, which take the
positions from `next` on. -/
def compileRepository (names : List String) (next : RuleId) :
    List (String × RuleSource) → Except GrammarError (List Rule × List Rule)
  | [] => .ok ([], [])
  | (name, source) :: entries => do
      let (rule, inner) ← compileRule names s!"repository.{name}" next source
      let (rules, added) ← compileRepository names (next + inner.length) entries
      return (rule :: rules, inner ++ added)

/-- Compile an artifact. The first fault counts: the repository is compiled before the
top-level patterns. -/
def compile (artifact : Artifact) : Except GrammarError Grammar := do
  let names := artifact.repository.map (·.1)
  let firstInner := names.length + 1
  let (rules, inner) ← compileRepository names firstInner artifact.repository
  let (ids, added) ←
    compilePatterns names "grammar" 0 (firstInner + inner.length) artifact.patterns
  let root : Rule := ⟨"grammar", [], .container ids⟩
  return ⟨artifact.name, artifact.scopeName, artifact.fileTypes,
    root :: rules ++ inner ++ added⟩

/-! ## Candidates -/

/-- Whether a position is that of a container, and then what it groups. -/
def grouped? (grammar : Grammar) (id : RuleId) : Option (List RuleId) :=
  match grammar.rules[id]? with
  | some ⟨_, _, .container patterns⟩ => some patterns
  | _ => none

/-- Work through a list of positions, replacing each container by what it groups. Each
container is opened once, and each other rule is listed once, where it first occurs. -/
def flatten (grammar : Grammar) (opened found : List RuleId) :
    Nat → List RuleId → List RuleId
  | 0, _ => found
  | _, [] => found
  | steps + 1, id :: work =>
      match grammar.grouped? id with
      | some patterns =>
          if id ∈ opened then flatten grammar opened found steps work
          else flatten grammar (id :: opened) found steps (patterns ++ work)
      | none =>
          if id ∈ found then flatten grammar opened found steps work
          else flatten grammar opened (found ++ [id]) steps work

/-- The rules to be tried inside a rule, in order of priority. No position is worked on more
often than it is listed. -/
def candidates (grammar : Grammar) (id : RuleId) : List RuleId :=
  let patterns := ((grammar.rules[id]?).map (·.patterns)).getD []
  let listed := (grammar.rules.flatMap (·.patterns)).length
  flatten grammar [] [] (patterns.length + listed) patterns

end Grammar

end TokenConcord
