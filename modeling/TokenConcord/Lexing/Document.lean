import TokenConcord.Lexing.Line

/-!
# Lexing a document line by line

A document grows by one line at a time. Its tokens carry byte offsets from the start of the
document, with one byte for every line feed; a carriage return before the line feed is part
of no token but counts as a byte.
-/

namespace TokenConcord.Lexing

/-- The lines lexed so far. -/
structure Document where
  tokens : List Token
  /-- Mode the next line starts in. -/
  mode : Mode
  lines : Nat
  /-- Byte offset at which the next line starts. -/
  nextStart : Nat
  deriving DecidableEq, Repr

namespace Document

/-- The document without lines. -/
def empty : Document := ⟨[], .default, 0, 0⟩

/-- Lex one more line in the mode the document is left in. -/
def append (document : Document) (line : Text) : Except LexError Document := do
  let lexed ← lexLine line.dropReturn document.mode (document.lines + 1)
  return {
    tokens := document.tokens ++ lexed.tokens.map (·.shift document.nextStart)
    mode := lexed.mode
    lines := document.lines + 1
    nextStart := document.nextStart + line.width + 1 }

/-- Lex several lines, up to the first error. -/
def appendAll (document : Document) (lines : List Text) : Except LexError Document :=
  lines.foldlM append document

/-- Lex a whole text. -/
def ofText (text : Text) : Except LexError Document :=
  empty.appendAll text.splitLines

/-- The tokens behind the first `count`. -/
def tokensSince (document : Document) (count : Nat) : List Token :=
  document.tokens.drop count

/-- Number of tokens so far. -/
def tokenCount (document : Document) : Nat :=
  document.tokens.length

end Document

end TokenConcord.Lexing
