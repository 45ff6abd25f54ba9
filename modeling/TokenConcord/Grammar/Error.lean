import TokenConcord.Pattern.Parser.State

/-!
# Faults of a grammar artifact
-/

namespace TokenConcord

/-- Why no grammar came out of an artifact. -/
inductive GrammarError where
  /-- The file could not be read. -/
  | unreadable (path cause : String)
  /-- The text has the wrong form. -/
  | malformed
  | invalidPattern (location : String) (cause : Pattern.ParseError)
  | unknownInclude (location name : String)
  | unsupportedInclude (location target : String)
  | missingEnd (location : String)
  | emptyRule (location : String)
  | invalidCaptureKey (location key : String)
  deriving DecidableEq, Repr

namespace GrammarError

/-- The fault as reported to the user. Where the text has the wrong form or a pattern is invalid,
the report goes on with a cause in the words of the parser that found it, which is left out. -/
def message : GrammarError → String
  | unreadable path cause => s!"failed to read grammar file {path}: {cause}"
  | malformed => "grammar artifact is not valid YAML"
  | invalidPattern location _ => s!"invalid pattern in {location}"
  | unknownInclude location name =>
      s!"{location} includes unknown repository rule '{name}'"
  | unsupportedInclude location target =>
      s!"{location} includes '{target}', external grammars are not supported"
  | missingEnd location => s!"{location} has a begin pattern but no end pattern"
  | emptyRule location => s!"{location} has no match, begin, include or patterns"
  | invalidCaptureKey location key => s!"{location} has invalid capture key '{key}'"

end GrammarError

end TokenConcord
