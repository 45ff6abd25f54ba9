import TokenConcord.Grammar.Compile
import TokenConcord.Grammar.Token
import TokenConcord.Pattern.Search

/-!
# Tokenizing a line

At each position all rules that may apply are searched forward, and the leftmost match wins.
Among matches that start together the rule listed first wins; the end of the open rule is
tried before all others, or after them where the rule says so. Text between two matches
belongs to the open rule. A rule with two ends stays open from its first match to its last
one, over any number of lines.
-/

namespace TokenConcord

/-- A rule left open, with the scopes of its two ends and of what lies between them. -/
structure Frame where
  rule : RuleId
  nameScopes : List String
  contentScopes : List String
  deriving DecidableEq, Repr

/-- The rules left open, the innermost first. The root is always open. -/
structure RuleStack where
  top : Frame
  below : List Frame
  deriving DecidableEq, Repr

namespace RuleStack

/-- Number of open rules. -/
def depth (stack : RuleStack) : Nat := stack.below.length + 1

/-- Open one more rule. -/
def push (stack : RuleStack) (frame : Frame) : RuleStack :=
  ⟨frame, stack.top :: stack.below⟩

/-- Close the innermost rule, unless it is the root. -/
def pop (stack : RuleStack) : RuleStack :=
  match stack.below with
  | [] => stack
  | frame :: below => ⟨frame, below⟩

end RuleStack

/-! ## Collecting tokens -/

/-- Tokens of a line up to a byte offset. -/
structure TokenRun where
  tokens : List ScopedToken
  stop : Nat
  deriving DecidableEq, Repr

namespace TokenRun

/-- No tokens yet. -/
def empty : TokenRun := ⟨[], 0⟩

/-- Cover the line up to an offset. Nothing happens where it is covered already. -/
def coverTo (run : TokenRun) (stop : Nat) (scopes : List String) : TokenRun :=
  if stop ≤ run.stop then run
  else ⟨run.tokens ++ [{ start := run.stop, stop, scopes }], stop⟩

/-- The tokens of a whole line. A line that gave none has one that covers nothing. -/
def finish (run : TokenRun) (scopes : List String) : List ScopedToken :=
  if run.tokens.isEmpty then [{ start := 0, stop := 0, scopes }] else run.tokens

end TokenRun

/-- A capture group whose end is still ahead. -/
structure OpenCapture where
  stop : Nat
  scopes : List String
  deriving DecidableEq, Repr

/-- Close the captures, innermost first, that end at or before an offset. -/
def closeCaptures (start : Nat) : List OpenCapture → TokenRun → List OpenCapture × TokenRun
  | [], run => ([], run)
  | capture :: outer, run =>
      if capture.stop ≤ start then
        closeCaptures start outer (run.coverTo capture.stop capture.scopes)
      else (capture :: outer, run)

/-- Cover the captures of a match, each under the scopes of those it lies in. Groups that
took no part in the match or matched nothing are passed over. -/
def coverCaptures (found : Match) (base : List String) :
    List CaptureRule → List OpenCapture → TokenRun → TokenRun
  | [], captures, run =>
      captures.foldl (fun run capture => run.coverTo capture.stop capture.scopes) run
  | rule :: rules, captures, run =>
      match found.group? rule.index with
      | none => coverCaptures found base rules captures run
      | some (start, stop) =>
          if start = stop then coverCaptures found base rules captures run
          else
            let (captures, run) := closeCaptures start captures run
            let scopes := (captures.head?.map (·.scopes)).getD base
            coverCaptures found base rules (⟨stop, scopes ++ rule.scopes⟩ :: captures)
              (run.coverTo start scopes)

/-- Cover a match: the scopes of group zero hold for all of it, and the numbered groups nest
inside by position. -/
def coverMatch (found : Match) (base : List String) (rules : List CaptureRule)
    (run : TokenRun) : TokenRun :=
  let whole := rules.filter (·.index == 0)
  let base := base ++ whole.flatMap (·.scopes)
  let run := coverCaptures found base (rules.filter (·.index != 0)) [] run
  run.coverTo found.stop.offset base

namespace Grammar

/-! ## Finding the next match -/

/-- What was found: the end of the open rule, or a rule that applies. -/
inductive Found where
  | closer (found : Match)
  | rule (id : RuleId) (found : Match)
  deriving DecidableEq, Repr

/-- The match behind what was found. -/
def Found.result : Found → Match
  | closer found => found
  | rule _ found => found

/-- What is looked for inside a frame: the end of its rule, or a rule by the pattern that it
starts with. -/
inductive Aim where
  | closer (pattern : Pattern)
  | rule (id : RuleId) (pattern : Pattern)
  deriving DecidableEq, Repr

/-- What is found at a cursor. A rule has to consume a character. -/
def Aim.at? (cursor : Cursor) : Aim → Option Found
  | closer pattern => (pattern.matchAt cursor).map .closer
  | rule id pattern => (pattern.nonEmptyAt cursor).map (.rule id)

/-- What is found first at a cursor or behind it. -/
def Aim.first? (cursor : Cursor) : Aim → Option Found
  | closer pattern => (pattern.first? cursor).map .closer
  | rule id pattern => (pattern.firstNonEmpty? cursor).map (.rule id)

/-- A rule as an aim. A rule that groups other rules is none. -/
def ruleAim? (grammar : Grammar) (id : RuleId) : Option Aim :=
  match grammar.rules[id]? with
  | some ⟨_, _, .single pattern _⟩ => some (.rule id pattern)
  | some ⟨_, _, .span opener _ _ _ _ _ _⟩ => some (.rule id opener)
  | _ => none

/-- The pattern that closes a frame, and whether it yields to the rules inside. -/
def closer? (grammar : Grammar) (frame : Frame) : Option (Pattern × Bool) :=
  match grammar.rules[frame.rule]? with
  | some ⟨_, _, .span _ closer _ _ _ closerLast _⟩ => some (closer, closerLast)
  | _ => none

/-- All that is looked for inside a frame, the preferred first. -/
def aims (grammar : Grammar) (frame : Frame) : List Aim :=
  let rules := (grammar.candidates frame.rule).filterMap grammar.ruleAim?
  match grammar.closer? frame with
  | none => rules
  | some (closer, true) => rules ++ [.closer closer]
  | some (closer, false) => .closer closer :: rules

/-- Where the next match lies inside a frame, and whose it is: at the first position where
anything is found, the preferred aim counts. -/
def nextMatch (grammar : Grammar) (frame : Frame) (cursor : Cursor) : Option Found :=
  let aims := grammar.aims frame
  cursor.search? fun cursor => aims.findSome? (·.at? cursor)

/-! ## Whole lines -/

/-- State for the first line of a document: the root is open. -/
def initialStack (grammar : Grammar) : RuleStack :=
  ⟨⟨root, [grammar.scopeName], [grammar.scopeName]⟩, []⟩

/-- Captures of the pattern that closes a frame. -/
def closerCaptures (grammar : Grammar) (frame : Frame) : List CaptureRule :=
  match grammar.rules[frame.rule]? with
  | some ⟨_, _, .span _ _ _ captures _ _ _⟩ => captures
  | _ => []

/-- Take what was found into the tokens and the open rules. -/
def take (grammar : Grammar) (stack : RuleStack) (run : TokenRun) (found : Found) :
    RuleStack × TokenRun :=
  let frame := stack.top
  let run := run.coverTo found.result.start frame.contentScopes
  match found with
  | .closer found =>
      (stack.pop, coverMatch found frame.nameScopes (grammar.closerCaptures frame) run)
  | .rule id found =>
      match grammar.rules[id]? with
      | some ⟨_, scopes, .single _ captures⟩ =>
          (stack, coverMatch found (frame.contentScopes ++ scopes) captures run)
      | some ⟨_, scopes, .span _ _ captures _ contentScopes _ _⟩ =>
          let scopes := frame.contentScopes ++ scopes
          (stack.push ⟨id, scopes, scopes ++ contentScopes⟩,
            coverMatch found scopes captures run)
      | _ => (stack, run)

/-- Take matches in turn, at most a number of them, as long as there are any. -/
def takeMatches (grammar : Grammar) :
    Nat → Cursor → RuleStack → TokenRun → RuleStack × TokenRun
  | 0, _, stack, run => (stack, run)
  | steps + 1, cursor, stack, run =>
      match grammar.nextMatch stack.top cursor with
      | none => (stack, run)
      | some found =>
          let (stack, run) := grammar.take stack run found
          takeMatches grammar steps found.result.stop stack run

/-- Tokens of a line, and the rules left open behind it. -/
structure LineTokens where
  tokens : List ScopedToken
  stack : RuleStack
  deriving DecidableEq, Repr

/-- Tokenize a line, given without its line break, with the rules that the line before it
left open. A match either consumes a character or closes a rule, and a rule is opened only
by consuming a character, which bounds the number of matches. -/
def tokenizeLine (grammar : Grammar) (line : Text) (previous : Option RuleStack := none) :
    LineTokens :=
  let stack := previous.getD grammar.initialStack
  let steps := 2 * line.length + stack.depth
  let (stack, run) := grammar.takeMatches steps (.ofLine line) stack .empty
  let scopes := stack.top.contentScopes
  ⟨(run.coverTo line.width scopes).finish scopes, stack⟩

end Grammar

end TokenConcord
