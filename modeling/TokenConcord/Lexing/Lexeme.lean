import TokenConcord.Lexing.Kind
import TokenConcord.Text.Basic
import TokenConcord.Unicode.Property

/-!
# Lexemes

The words of the language as they stand in a text. At every position the longest lexeme
wins; a reserved word wins over the identifier of the same letters. Comments, text literals
and quoted identifiers are found by their opening delimiter and run to their closer, or to
the end of the text when there is none.
-/

namespace TokenConcord.Lexing

/-- Whether a delimited construct closes in the text it starts in. -/
inductive Closure where
  | closed | opened
  deriving DecidableEq, Repr

/-- Class of a lexeme. -/
inductive Lexeme where
  | simple (kind : Kind)
  | blockComment (closure : Closure)
  | text (closure : Closure)
  | quotedIdentifier (closure : Closure)
  deriving DecidableEq, Repr

/-! ## Delimited constructs -/

/-- What stands before the first quote that is not half of a doubled quote. -/
def quotedContent? : Text → Option Text
  | [] => none
  | '"' :: '"' :: text => (quotedContent? text).map ('"' :: '"' :: ·)
  | c :: text => if c = '"' then some [] else (quotedContent? text).map (c :: ·)

/-- What stands before the first closer of a block comment. -/
def commentContent? : Text → Option Text
  | [] => none
  | '*' :: '/' :: _ => some []
  | c :: text => (commentContent? text).map (c :: ·)

/-- Byte offset of the first quote that is not half of a doubled quote. -/
def closingQuote? (text : Text) : Option Nat :=
  (quotedContent? text).map (·.width)

/-- Byte offset just past the first closer of a block comment. -/
def commentEnd? (text : Text) : Option Nat :=
  (commentContent? text).map (·.width + 2)

/-! ## Characters and runs of characters -/

/-- White space that separates lexemes: space, tab, carriage return and form feed. -/
def isBlank (c : Char) : Bool :=
  c == ' ' || c == '\t' || c == '\r' || c == '\x0c'

/-- First characters of an identifier segment. -/
def isIdentifierStart (c : Char) : Bool :=
  c == '_' || Unicode.isLetter c

/-- Later characters of an identifier segment. -/
def isIdentifierPart (c : Char) : Bool :=
  c == '_' || Unicode.isLetter c || Unicode.isDecimalDigit c

/-- Hexadecimal digits of either case. -/
def isHexDigit (c : Char) : Bool :=
  c.isDigit || ('a' ≤ c && c ≤ 'f') || ('A' ≤ c && c ≤ 'F')

/-- Number of characters at the start of the text that pass a test. -/
def countWhile (test : Char → Bool) (text : Text) : Nat :=
  (text.takeWhile test).length

/-! ## Numbers -/

/-- Length of the exponent the text starts with, zero if there is none. -/
def exponentLength : Text → Nat
  | e :: text =>
      if e = 'e' ∨ e = 'E' then
        let sign := match text with
          | c :: _ => if c = '+' ∨ c = '-' then 1 else 0
          | [] => 0
        let digits := countWhile Char.isDigit (text.drop sign)
        if digits = 0 then 0 else 1 + sign + digits
      else 0
  | [] => 0

/-- Length of the fraction the text starts with, zero if there is none. -/
def fractionLength : Text → Nat
  | c :: text =>
      if c = '.' then
        let digits := countWhile Char.isDigit text
        if digits = 0 then 0 else 1 + digits
      else 0
  | [] => 0

/-- Length of the number the text starts with, zero if there is none: digits, a fraction,
or both, and an exponent. -/
def numberLength (text : Text) : Nat :=
  let whole := countWhile Char.isDigit text
  let part := whole + fractionLength (text.drop whole)
  if part = 0 then 0 else part + exponentLength (text.drop part)

/-- Length of the hexadecimal number the text starts with, zero if there is none. -/
def hexLength : Text → Nat
  | '0' :: x :: text =>
      if x = 'x' ∨ x = 'X' then
        let digits := countWhile isHexDigit text
        if digits = 0 then 0 else 2 + digits
      else 0
  | _ => 0

/-! ## Words -/

/-- Length of what continues an identifier: more of the segment, and further segments
joined by single dots. -/
def identifierTail : Text → Nat
  | [] => 0
  | c :: text =>
      if isIdentifierPart c then identifierTail text + 1
      else if c = '.' then
        match text with
        | d :: more => if isIdentifierStart d then identifierTail more + 2 else 0
        | [] => 0
      else 0

/-- Reserved words. -/
def reservedWords : List (String × Kind) :=
  [("and", .keywordAnd), ("as", .keywordAs), ("each", .keywordEach), ("else", .keywordElse),
    ("error", .keywordError), ("false", .keywordFalse), ("if", .keywordIf), ("in", .keywordIn),
    ("is", .keywordIs), ("let", .keywordLet), ("meta", .keywordMeta), ("not", .keywordNot),
    ("null", .nullLiteral), ("or", .keywordOr), ("otherwise", .keywordOtherwise),
    ("section", .keywordSection), ("shared", .keywordShared), ("then", .keywordThen),
    ("true", .keywordTrue), ("try", .keywordTry), ("type", .keywordType)]

/-- Kind of a whole word with the text after it. A reserved word before a dot is an
identifier: the dot has already been read as the start of a further segment. -/
def wordKind (word after : Text) : Kind :=
  if after.head? = some '.' then .identifier
  else ((reservedWords.find? (·.1.toList == word)).map (·.2)).getD .identifier

/-! ## Fixed lexemes -/

/-- Operators, punctuation and hash keywords, each before those that it starts with. -/
def fixedLexemes : List (String × Kind) :=
  [("&", .ampersand), ("*", .asterisk), ("@", .atSign), ("!", .bang), (",", .comma),
    ("/", .division), ("...", .ellipsis), ("..", .dotDot), ("=>", .fatArrow), ("=", .equal),
    (">=", .greaterThanEqualTo), (">", .greaterThan), ("<=", .lessThanEqualTo),
    ("<>", .notEqual), ("<", .lessThan), ("-", .minus), ("+", .plus),
    ("??", .nullCoalescingOperator), ("?", .questionMark), ("\x7b", .leftBrace),
    ("\x7d", .rightBrace), ("[", .leftBracket), ("]", .rightBracket), ("(", .leftParenthesis),
    (")", .rightParenthesis), (";", .semicolon), ("#binary", .keywordHashBinary),
    ("#datetimezone", .keywordHashDateTimeZone), ("#datetime", .keywordHashDateTime),
    ("#date", .keywordHashDate), ("#duration", .keywordHashDuration),
    ("#infinity", .keywordHashInfinity), ("#nan", .keywordHashNan),
    ("#sections", .keywordHashSections), ("#shared", .keywordHashShared),
    ("#table", .keywordHashTable), ("#time", .keywordHashTime)]

/-- The longest fixed lexeme that the text starts with. -/
def fixedLexeme? (text : Text) : Option (Lexeme × Nat) :=
  (fixedLexemes.find? (·.1.toList.isPrefixOf text)).map fun (word, kind) =>
    (.simple kind, word.toList.length)

/-! ## The first lexeme of a text -/

/-- A construct behind an opener of `opener` characters: up to its closer of `closer`
characters, or to the end of the text. -/
def delimited (lexeme : Closure → Lexeme) (opener closer : Nat) (content? : Option Text)
    (text : Text) : Lexeme × Nat :=
  match content? with
  | some content => (lexeme .closed, opener + content.length + closer)
  | none => (lexeme .opened, text.length)

/-- The lexeme that a text starts with and the number of its characters. -/
def firstLexeme? (text : Text) : Option (Lexeme × Nat) :=
  match text with
  | [] => none
  | '"' :: inner => some (delimited .text 1 1 (quotedContent? inner) text)
  | '#' :: '"' :: inner => some (delimited .quotedIdentifier 2 1 (quotedContent? inner) text)
  | '/' :: '*' :: inner => some (delimited .blockComment 2 2 (commentContent? inner) text)
  | '/' :: '/' :: inner => some (.simple .lineComment, 2 + countWhile (· != '\n') inner)
  | c :: rest =>
      if isIdentifierStart c then
        let length := 1 + identifierTail rest
        some (.simple (wordKind (text.take length) (text.drop length)), length)
      else if hexLength text ≠ 0 then some (.simple .hexLiteral, hexLength text)
      else if numberLength text ≠ 0 then some (.simple .numericLiteral, numberLength text)
      else fixedLexeme? text

/-! ## All lexemes of a text -/

/-- A lexeme with the byte offsets of its ends. -/
structure LexemeSpan where
  lexeme : Lexeme
  start : Nat
  stop : Nat
  deriving DecidableEq, Repr

/-- Lexemes of a text that begins at a byte offset and whose first `skip` characters belong
to a lexeme found before. Reading stops at a position where no lexeme starts; the text from
there on is returned beside the lexemes, and is empty when everything was read. -/
def lexemesFrom (offset skip : Nat) : Text → List LexemeSpan × Text
  | [] => ([], [])
  | c :: rest =>
      let next := offset + c.utf8Size
      match skip with
      | skip + 1 => lexemesFrom next skip rest
      | 0 =>
          if isBlank c then lexemesFrom next 0 rest
          else
            match firstLexeme? (c :: rest) with
            | none => ([], c :: rest)
            | some (lexeme, length) =>
                let stop := offset + Text.width ((c :: rest).take length)
                let (later, unread) := lexemesFrom next (length - 1) rest
                (⟨lexeme, offset, stop⟩ :: later, unread)

/-- Lexemes of a text, and what is left of the text where none starts. -/
def lexemes (text : Text) : List LexemeSpan × Text :=
  lexemesFrom 0 0 text

end TokenConcord.Lexing
