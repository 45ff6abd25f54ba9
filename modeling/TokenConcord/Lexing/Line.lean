import TokenConcord.Lexing.Lexeme
import TokenConcord.Text.Quoted

/-!
# Lexing one line

A line is lexed in the mode that the line before it left behind. Inside a construct the
line is first searched for the closer: up to it the line is the end of the construct, and
ordinary lexing goes on behind it; without a closer the whole line is content of the
construct. A construct that opens and does not close takes the rest of the line and sets
the mode for the next one.
-/

namespace TokenConcord.Lexing

/-- Constructs that can run over several lines. -/
inductive Construct where
  | comment | text | quotedIdentifier
  deriving DecidableEq, Repr

namespace Construct

/-- Kind of the first part, which takes the rest of the line it opens on. -/
def startKind : Construct → Kind
  | comment => .multilineCommentStart
  | text => .textLiteralStart
  | quotedIdentifier => .quotedIdentifierStart

/-- Kind of a line that lies inside as a whole. -/
def contentKind : Construct → Kind
  | comment => .multilineCommentContent
  | text => .textLiteralContent
  | quotedIdentifier => .quotedIdentifierContent

/-- Kind of the last part, which ends with the closer. -/
def endKind : Construct → Kind
  | comment => .multilineCommentEnd
  | text => .textLiteralEnd
  | quotedIdentifier => .quotedIdentifierEnd

/-- Kind of a construct that closes on the line it opens on. -/
def wholeKind : Construct → Kind
  | comment => .multilineComment
  | text => .textLiteral
  | quotedIdentifier => .identifier

/-- Number of characters up to and with the closer. -/
def closer? : Construct → Text → Option Nat
  | comment, line => (commentContent? line).map (·.length + 2)
  | text, line => (quotedContent? line).map (·.length + 1)
  | quotedIdentifier, line => (quotedContent? line).map (·.length + 1)

end Construct

/-- What a line starts inside of. -/
inductive Mode where
  | default
  | inside (construct : Construct)
  deriving DecidableEq, Repr

/-- A classified stretch of text between two byte offsets. -/
structure Token where
  kind : Kind
  start : Nat
  stop : Nat
  deriving DecidableEq, Repr

namespace Token

/-- Number of bytes the token covers. -/
def length (token : Token) : Nat := token.stop - token.start

/-- Whether the token covers nothing. -/
def isEmpty (token : Token) : Bool := token.start == token.stop

/-- The same token in a text with `distance` more bytes in front. -/
def shift (distance : Nat) (token : Token) : Token :=
  ⟨token.kind, distance + token.start, distance + token.stop⟩

end Token

/-- The multi-line construct a lexeme is an instance of, with its closure. -/
def Lexeme.construct? : Lexeme → Option (Construct × Closure)
  | simple _ => none
  | blockComment closure => some (.comment, closure)
  | text closure => some (.text, closure)
  | quotedIdentifier closure => some (.quotedIdentifier, closure)

/-- Kind under which a lexeme is reported. -/
def Lexeme.kind : Lexeme → Kind
  | simple kind => kind
  | blockComment .closed => Construct.comment.wholeKind
  | blockComment .opened => Construct.comment.startKind
  | text .closed => Construct.text.wholeKind
  | text .opened => Construct.text.startKind
  | quotedIdentifier .closed => Construct.quotedIdentifier.wholeKind
  | quotedIdentifier .opened => Construct.quotedIdentifier.startKind

/-- Mode that a line with this last lexeme leaves behind. -/
def Lexeme.modeAfter (lexeme : Lexeme) : Mode :=
  match lexeme.construct? with
  | some (construct, .opened) => .inside construct
  | _ => .default

/-- A character that no lexeme starts with, by line and column counted from one. Columns
count characters. -/
structure LexError where
  line : Nat
  column : Nat
  char : Char
  deriving DecidableEq, Repr

/-- The error as reported to the user. -/
def LexError.message (e : LexError) : String :=
  s!"unexpected character {Text.quoteChar e.char} at line {e.line}, column {e.column}"

/-- Tokens of a line, and the mode for the next line. -/
structure LexedLine where
  tokens : List Token
  mode : Mode
  deriving DecidableEq, Repr

/-- Lex a line behind its first `resolved` characters, which gave the tokens `done`. -/
def lexRest (line : Text) (number resolved : Nat) (done : List Token) :
    Except LexError LexedLine :=
  let (found, unread) :=
    lexemesFrom (Text.width (line.take resolved)) 0 (line.drop resolved)
  match unread with
  | _ :: _ => .error ⟨number, line.length - unread.length + 1, unread.headD '\ufffd'⟩
  | [] =>
      let tokens := found.map fun span => ⟨span.lexeme.kind, span.start, span.stop⟩
      let mode := (found.getLast?.map (·.lexeme.modeAfter)).getD .default
      .ok ⟨done ++ tokens, mode⟩

/-- Lex the line with the given number in the mode that the line before it left behind. -/
def lexLine (line : Text) (mode : Mode) (number : Nat) : Except LexError LexedLine :=
  match mode with
  | .default => lexRest line number 0 []
  | .inside construct =>
      match construct.closer? line with
      | none => .ok ⟨[⟨construct.contentKind, 0, line.width⟩], mode⟩
      | some length =>
          lexRest line number length [⟨construct.endKind, 0, Text.width (line.take length)⟩]

end TokenConcord.Lexing
