import TokenConcord.CommandLine.Arguments
import TokenConcord.Config.Layers
import TokenConcord.Json
import TokenConcord.Reconcile.Report

/-!
# Running the program

Arguments, configuration, grammar and source are looked at in this order, and the first
fault ends the run.
-/

namespace TokenConcord

/-- A grammar token in JSON. -/
def ScopedToken.toJson (token : ScopedToken) : Json :=
  .object ([("start", .number token.start), ("end", .number token.stop),
    ("scopes", .list (token.scopes.map .string))] ++
    if token.merged then [("merged", .boolean true)] else [])

/-- A reference token in JSON. -/
def Lexing.Token.toJson (token : Lexing.Token) : Json :=
  .object [("kind", .string token.kind.name), ("start", .number token.start),
    ("end", .number token.stop)]

namespace CommandLine

/-- What a run of the program leaves behind. -/
structure Outcome where
  exit : Nat
  stdout : String
  stderr : String
  deriving DecidableEq, Repr

namespace Outcome

/-- A run that prints a line. -/
def printed (line : String) : Outcome := ⟨0, line ++ "\n", ""⟩

/-- A run that fails with a line. -/
def failed (line : String) : Outcome := ⟨1, "", line ++ "\n"⟩

/-- The outcome of a step that fails with a line or gives an outcome. -/
def ofExcept : Except String Outcome → Outcome
  | .ok outcome => outcome
  | .error line => failed line

end Outcome

/-- Name and version of the program. -/
def version : String := "pqgrammar 0.1.0"

/-- How the program is called. -/
def usage : String :=
  Text.joinWith "\n"
    ["Usage: pqgrammar [-c <config>] [-g <grammar>] <command>",
      "",
      "Commands:",
      "  tokens <path> [--raw] [-f json|text]",
      "  lex <path> [-f json|text]",
      "  compare <path> [--check-offsets]",
      "  compare -e <expr> [--incremental] [--raw] [--check-offsets]"]

/-- The outcome of arguments that ask for no command. -/
def Refusal.outcome : Refusal → Outcome
  | usage => ⟨2, "", CommandLine.usage ++ "\n"⟩
  | help => .printed CommandLine.usage
  | version => .printed CommandLine.version

/-- The configuration file of the working directory. -/
def localConfig : Text := "pqgrammar.toml".toList

/-- The layers of configuration that a call asks for. -/
def Invocation.layers (invocation : Invocation) : List Config.Layer :=
  let file := match invocation.config with
    | some path => .file path true
    | none => .file localConfig false
  let grammar := match invocation.grammar with
    | some path => [.override "grammar.path".toList (.string path)]
    | none => []
  let offsets := match invocation.command with
    | .compare _ _ _ true => [.override "incremental.check_offsets".toList (.boolean true)]
    | _ => []
  file :: grammar ++ offsets

/-! ## Tokens -/

/-- A line with its tokens and the number of rules open behind it. -/
structure TokenizedLine where
  number : Nat
  depth : Nat
  tokens : List ScopedToken
  deriving DecidableEq, Repr

namespace TokenizedLine

/-- The line in JSON. -/
def toJson (line : TokenizedLine) : Json :=
  .object [("line", .number line.number), ("depth", .number line.depth),
    ("tokens", .list (line.tokens.map (·.toJson)))]

/-- The line in plain text. -/
def render (line : TokenizedLine) : String :=
  s!"-- line {line.number} (depth {line.depth})\n" ++ renderScoped line.tokens ++ "\n"

end TokenizedLine

/-- Tokenize lines that follow one with a given number. -/
def tokenizeLines (grammar : Grammar) (raw : Bool) (number : Nat) (stack : Option RuleStack) :
    List Text → Except String (List TokenizedLine)
  | [] => .ok []
  | line :: lines => do
      let result := grammar.tokenizeLine line stack
      let number := number + 1
      let tokens ←
        if raw then .ok result.tokens
        else (normalize result.tokens).mapError fun fault => s!"Line {number}: {fault.message}"
      let later ← tokenizeLines grammar raw number (some result.stack) lines
      return ⟨number, result.stack.depth, tokens⟩ :: later

/-- Print the grammar's tokens of a source. -/
def printTokens (grammar : Grammar) (source : Text) (raw : Bool) (format : Format) :
    Except String Outcome := do
  let lines ← tokenizeLines grammar raw 0 none source.fileLines
  match format with
  | .json => return .printed (Json.list (lines.map (·.toJson))).pretty
  | .text => return ⟨0, String.join (lines.map (·.render)), ""⟩

/-- Print the reference lexer's tokens of a source. -/
def printLexed (source : Text) (format : Format) : Except String Outcome := do
  let document ← (Lexing.Document.ofText source).mapError fun fault =>
    "Lex error: " ++ fault.message
  match format with
  | .json => return .printed (Json.list (document.tokens.map (·.toJson))).pretty
  | .text => return .printed (renderReference document.tokens)

/-! ## Reconciling -/

/-- Reconcile a text as one line. -/
def compareLine (reconciler : Reconciler) (text : Text) : Except String Outcome := do
  let report ← (reconciler.line text).mapError (·.message)
  return .printed s!"ok: {report.grammarTokens.length} tokens"

/-- Reconcile a text line by line. -/
def compareDocument (reconciler : Reconciler) (text : Text) : Except String Outcome := do
  let steps ← (reconciler.document text).mapError (·.message)
  return .printed s!"ok: {steps.length} lines"

/-! ## Runs -/

variable {m : Type → Type} [Monad m] (read : FileReader m)

/-- Read a source. -/
def readSource (path : Text) : ExceptT String m Text := do
  match ← ExceptT.lift (read path) with
  | .ok text => return text
  | .error cause => throw s!"Failed to read {String.ofList path}: {cause.message}"

/-- Carry out a command. -/
def Command.run (command : Command) (config : Config) (grammar : Grammar) :
    ExceptT String m Outcome := do
  match command with
  | .tokens path raw format => printTokens grammar (← readSource read path) raw format
  | .lex path format => printLexed (← readSource read path) format
  | .compare subject incremental raw _ =>
      let table ← ClassificationTable.standard.mapError fun fault =>
        "Classification table error: " ++ fault.message
      let reconciler : Reconciler := ⟨grammar, table, config.offsetCheck, !raw⟩
      match subject with
      | .file path => compareDocument reconciler (← readSource read path)
      | .expression text =>
          if incremental then compareDocument reconciler text else compareLine reconciler text

/-- Carry out a call. -/
def Invocation.run (invocation : Invocation) : ExceptT String m Outcome := do
  let config ← (Config.ofLayers read invocation.layers).adapt fun fault =>
    "Configuration error: " ++ fault.message
  let grammar ← (config.loadGrammar read).adapt fun fault =>
    "Grammar error: " ++ fault.message
  invocation.command.run read config grammar

/-- Run the program with arguments. -/
def run (arguments : List Text) : m Outcome := do
  match parse arguments with
  | .error refusal => return refusal.outcome
  | .ok invocation => return .ofExcept (← (invocation.run read).run)

end CommandLine

end TokenConcord
