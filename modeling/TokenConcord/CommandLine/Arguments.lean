import TokenConcord.Text.Basic

/-!
# Command-line arguments

What a call of the program asks for. Options may stand before and behind the command that
they belong to, as may the two that every command takes; the place nearest to the end counts
for these. A value follows its option as the next argument, or in the same one. Behind a
double dash nothing is an option.
-/

namespace TokenConcord.CommandLine

/-- How tokens are printed. -/
inductive Format where
  | json | text
  deriving DecidableEq, Repr

/-- What is reconciled. -/
inductive Subject where
  | file (path : Text)
  | expression (text : Text)
  deriving DecidableEq, Repr

/-- What the program does. -/
inductive Command where
  /-- Print the grammar's tokens of a file. -/
  | tokens (path : Text) (raw : Bool) (format : Format)
  /-- Print the reference lexer's tokens of a file. -/
  | lex (path : Text) (format : Format)
  /-- Reconcile both token streams. -/
  | compare (subject : Subject) (incremental raw checkOffsets : Bool)
  deriving DecidableEq, Repr

/-- A call of the program. -/
structure Invocation where
  command : Command
  /-- The configuration file in place of the local one. -/
  config : Option Text
  /-- The grammar in place of the configured one. -/
  grammar : Option Text
  deriving DecidableEq, Repr

/-- Why arguments ask for no command. -/
inductive Refusal where
  /-- They are not understood. -/
  | usage
  | help
  | version
  deriving DecidableEq, Repr

/-! ## Options -/

/-- An option of a command. -/
structure OptionSpec where
  name : String
  short : Option Char := none
  takesValue : Bool := false
  deriving DecidableEq, Repr

/-- What a command takes. -/
structure Signature where
  options : List OptionSpec
  /-- Whether it takes an argument that belongs to no option. -/
  takesPath : Bool
  /-- Names of the commands inside. -/
  commands : List String
  /-- Whether it can be asked for its version. -/
  hasVersion : Bool

/-- Options that every command takes. -/
def globalOptions : List OptionSpec :=
  [⟨"config", some 'c', true⟩, ⟨"grammar", some 'g', true⟩]

/-- The option for the format. -/
def formatOption : OptionSpec := ⟨"format", some 'f', true⟩

/-- The program as a whole. -/
def program : Signature :=
  ⟨globalOptions, false, ["tokens", "lex", "compare", "help"], true⟩

/-- What each command takes. -/
def signatureOf (command : String) : Signature :=
  let own : List OptionSpec :=
    if command = "tokens" then [⟨"raw", none, false⟩, formatOption]
    else if command = "lex" then [formatOption]
    else
      [⟨"expr", some 'e', true⟩, ⟨"incremental", none, false⟩, ⟨"raw", none, false⟩,
        ⟨"check-offsets", none, false⟩]
  ⟨own ++ globalOptions, true, [], false⟩

/-! ## Reading arguments -/

/-- Options and values found, and the command with its arguments where one was reached. -/
structure Found where
  /-- Options by name, those without a value with an empty one. -/
  options : List (String × Text)
  path : Option Text
  command : Option (String × List Text)
  deriving DecidableEq, Repr

namespace Found

/-- Nothing found. -/
def empty : Found := ⟨[], none, none⟩

/-- The value of an option. -/
def option? (found : Found) (name : String) : Option Text := found.options.lookup name

/-- Whether an option was given. -/
def has (found : Found) (name : String) : Bool := (found.option? name).isSome

/-- Add an option, which may not be given twice. Of the formats there are two. -/
def addOption (found : Found) (name : String) (value : Text) : Except Refusal Found :=
  if found.has name ∨ (name = "format" ∧ value ∉ ["json".toList, "text".toList]) then
    .error .usage
  else .ok { found with options := (name, value) :: found.options }

/-- Add an argument that belongs to no option. -/
def addPath (found : Found) (signature : Signature) (path : Text) : Except Refusal Found :=
  if signature.takesPath ∧ found.path.isNone then .ok { found with path := some path }
  else .error .usage

end Found

/-- An argument that could be an option. A single dash is none. -/
def looksLikeOption : Text → Bool
  | '-' :: _ :: _ => true
  | _ => false

/-- What an argument of one dash asks for. -/
inductive ShortUse where
  | refused (refusal : Refusal)
  /-- An option with its value, and without an equals sign between them. -/
  | attached (name : String) (value : Text)
  /-- An option whose value is the next argument. -/
  | open (name : String)

/-- What the letters behind a single dash ask for. -/
def shortUse (signature : Signature) : Text → ShortUse
  | [] => .refused .usage
  | c :: text =>
      if c = 'h' then .refused .help
      else if c = 'V' ∧ signature.hasVersion then .refused .version
      else
        match signature.options.find? (·.short = some c) with
        | none => .refused .usage
        | some option =>
            match text with
            | [] => .open option.name
            | '=' :: value => .attached option.name value
            | value => .attached option.name value

/-- What the name behind a double dash asks for, with the value behind its equals sign. -/
def longUse (signature : Signature) (found : Found) (name : Text) (value : Option Text) :
    Except Refusal (Found × Option String) :=
  if name = "help".toList ∧ value.isNone then .error .help
  else if name = "version".toList ∧ signature.hasVersion ∧ value.isNone then .error .version
  else
    match signature.options.find? (·.name.toList = name) with
    | none => .error .usage
    | some option =>
        match option.takesValue, value with
        | false, none => (found.addOption option.name []).map fun found => (found, none)
        | false, some _ => .error .usage
        | true, none => .ok (found, some option.name)
        | true, some value => (found.addOption option.name value).map fun found => (found, none)

/-- The name and the value of an argument behind its double dash. -/
def splitValue (text : Text) : Text × Option Text :=
  match text.dropWhile (· != '=') with
  | [] => (text, none)
  | _ :: value => (text.takeWhile (· != '='), some value)

/-- Read arguments, where an option may still wait for its value. -/
def readArguments (signature : Signature) (found : Found) (waiting : Option String) :
    List Text → Except Refusal Found
  | [] => if waiting.isSome then .error .usage else .ok found
  | argument :: arguments =>
      match waiting with
      | some name =>
          if looksLikeOption argument then .error .usage
          else do readArguments signature (← found.addOption name argument) none arguments
      | none =>
          if signature.commands.any (·.toList = argument) then
            .ok { found with command := some (String.ofList argument, arguments) }
          else
            match argument with
            | ['-', '-'] => arguments.foldlM (·.addPath signature) found
            | '-' :: '-' :: text => do
                let (name, value) := splitValue text
                let (found, waiting) ← longUse signature found name value
                readArguments signature found waiting arguments
            | '-' :: c :: text =>
                match shortUse signature (c :: text) with
                | .refused refusal => .error refusal
                | .attached name value => do
                    readArguments signature (← found.addOption name value) none arguments
                | .open name => readArguments signature found (some name) arguments
            | path => do
                readArguments signature (← found.addPath signature path) none arguments

/-! ## Commands -/

/-- The path of a command that needs one. -/
def Found.requirePath (found : Found) : Except Refusal Text :=
  match found.path with
  | some path => .ok path
  | none => .error .usage

/-- The format asked for. -/
def Found.format (found : Found) : Format :=
  if found.option? "format" = some "text".toList then .text else .json

/-- The command that options and values make up. -/
def Found.toCommand (found : Found) (name : String) : Except Refusal Command := do
  if name = "tokens" then
    return .tokens (← found.requirePath) (found.has "raw") found.format
  else if name = "lex" then
    return .lex (← found.requirePath) found.format
  else
    let subject ← match found.path, found.option? "expr" with
      | some path, none => .ok (.file path)
      | none, some text => .ok (.expression text)
      | _, _ => .error .usage
    return .compare subject (found.has "incremental") (found.has "raw")
      (found.has "check-offsets")

/-- The answer to a call for help on a row of commands. -/
def helpRefusal : List Text → Refusal
  | [] => .help
  | [command] => if program.commands.any (·.toList = command) then .help else .usage
  | _ => .usage

/-- The call that arguments make up. -/
def parse (arguments : List Text) : Except Refusal Invocation := do
  let outer ← readArguments program .empty none arguments
  match outer.command with
  | none => .error .usage
  | some (name, arguments) =>
      if name = "help" then .error (helpRefusal arguments)
      else
        let inner ← readArguments (signatureOf name) .empty none arguments
        let command ← inner.toCommand name
        let nearest (name : String) : Option Text := inner.option? name <|> outer.option? name
        return ⟨command, nearest "config", nearest "grammar"⟩

end TokenConcord.CommandLine
