/-!
# Kinds of reference tokens

The closed set of classifications that the reference lexer reports. A construct that runs
over several lines is reported in parts (start, content, end), and a quoted identifier that
closes on its own line is an identifier.
-/

namespace TokenConcord.Lexing

/-- Classification of a reference token. -/
inductive Kind where
  | ampersand | asterisk | atSign | bang | comma | division | dotDot | ellipsis | equal | fatArrow
  | greaterThan | greaterThanEqualTo | hexLiteral | identifier | keywordAnd | keywordAs
  | keywordEach | keywordElse | keywordError | keywordFalse | keywordHashBinary | keywordHashDate
  | keywordHashDateTime | keywordHashDateTimeZone | keywordHashDuration | keywordHashInfinity
  | keywordHashNan | keywordHashSections | keywordHashShared | keywordHashTable | keywordHashTime
  | keywordIf | keywordIn | keywordIs | keywordLet | keywordMeta | keywordNot | keywordOr
  | keywordOtherwise | keywordSection | keywordShared | keywordThen | keywordTrue | keywordTry
  | keywordType | leftBrace | leftBracket | leftParenthesis | lessThan | lessThanEqualTo
  | lineComment | minus | multilineComment | multilineCommentContent | multilineCommentEnd
  | multilineCommentStart | notEqual | nullCoalescingOperator | nullLiteral | numericLiteral
  | plus | questionMark | quotedIdentifierContent | quotedIdentifierEnd | quotedIdentifierStart
  | rightBrace | rightBracket | rightParenthesis | semicolon | textLiteral | textLiteralContent
  | textLiteralEnd | textLiteralStart
  deriving DecidableEq, Repr

namespace Kind

/-- Every kind, in order of declaration. -/
def all : List Kind :=
  [.ampersand, .asterisk, .atSign, .bang, .comma, .division, .dotDot, .ellipsis, .equal,
    .fatArrow, .greaterThan, .greaterThanEqualTo, .hexLiteral, .identifier, .keywordAnd,
    .keywordAs, .keywordEach, .keywordElse, .keywordError, .keywordFalse, .keywordHashBinary,
    .keywordHashDate, .keywordHashDateTime, .keywordHashDateTimeZone, .keywordHashDuration,
    .keywordHashInfinity, .keywordHashNan, .keywordHashSections, .keywordHashShared,
    .keywordHashTable, .keywordHashTime, .keywordIf, .keywordIn, .keywordIs, .keywordLet,
    .keywordMeta, .keywordNot, .keywordOr, .keywordOtherwise, .keywordSection, .keywordShared,
    .keywordThen, .keywordTrue, .keywordTry, .keywordType, .leftBrace, .leftBracket,
    .leftParenthesis, .lessThan, .lessThanEqualTo, .lineComment, .minus, .multilineComment,
    .multilineCommentContent, .multilineCommentEnd, .multilineCommentStart, .notEqual,
    .nullCoalescingOperator, .nullLiteral, .numericLiteral, .plus, .questionMark,
    .quotedIdentifierContent, .quotedIdentifierEnd, .quotedIdentifierStart, .rightBrace,
    .rightBracket, .rightParenthesis, .semicolon, .textLiteral, .textLiteralContent,
    .textLiteralEnd, .textLiteralStart]

/-- Name under which a kind is reported. -/
def name : Kind → String
  | .ampersand => "Ampersand"
  | .asterisk => "Asterisk"
  | .atSign => "AtSign"
  | .bang => "Bang"
  | .comma => "Comma"
  | .division => "Division"
  | .dotDot => "DotDot"
  | .ellipsis => "Ellipsis"
  | .equal => "Equal"
  | .fatArrow => "FatArrow"
  | .greaterThan => "GreaterThan"
  | .greaterThanEqualTo => "GreaterThanEqualTo"
  | .hexLiteral => "HexLiteral"
  | .identifier => "Identifier"
  | .keywordAnd => "KeywordAnd"
  | .keywordAs => "KeywordAs"
  | .keywordEach => "KeywordEach"
  | .keywordElse => "KeywordElse"
  | .keywordError => "KeywordError"
  | .keywordFalse => "KeywordFalse"
  | .keywordHashBinary => "KeywordHashBinary"
  | .keywordHashDate => "KeywordHashDate"
  | .keywordHashDateTime => "KeywordHashDateTime"
  | .keywordHashDateTimeZone => "KeywordHashDateTimeZone"
  | .keywordHashDuration => "KeywordHashDuration"
  | .keywordHashInfinity => "KeywordHashInfinity"
  | .keywordHashNan => "KeywordHashNan"
  | .keywordHashSections => "KeywordHashSections"
  | .keywordHashShared => "KeywordHashShared"
  | .keywordHashTable => "KeywordHashTable"
  | .keywordHashTime => "KeywordHashTime"
  | .keywordIf => "KeywordIf"
  | .keywordIn => "KeywordIn"
  | .keywordIs => "KeywordIs"
  | .keywordLet => "KeywordLet"
  | .keywordMeta => "KeywordMeta"
  | .keywordNot => "KeywordNot"
  | .keywordOr => "KeywordOr"
  | .keywordOtherwise => "KeywordOtherwise"
  | .keywordSection => "KeywordSection"
  | .keywordShared => "KeywordShared"
  | .keywordThen => "KeywordThen"
  | .keywordTrue => "KeywordTrue"
  | .keywordTry => "KeywordTry"
  | .keywordType => "KeywordType"
  | .leftBrace => "LeftBrace"
  | .leftBracket => "LeftBracket"
  | .leftParenthesis => "LeftParenthesis"
  | .lessThan => "LessThan"
  | .lessThanEqualTo => "LessThanEqualTo"
  | .lineComment => "LineComment"
  | .minus => "Minus"
  | .multilineComment => "MultilineComment"
  | .multilineCommentContent => "MultilineCommentContent"
  | .multilineCommentEnd => "MultilineCommentEnd"
  | .multilineCommentStart => "MultilineCommentStart"
  | .notEqual => "NotEqual"
  | .nullCoalescingOperator => "NullCoalescingOperator"
  | .nullLiteral => "NullLiteral"
  | .numericLiteral => "NumericLiteral"
  | .plus => "Plus"
  | .questionMark => "QuestionMark"
  | .quotedIdentifierContent => "QuotedIdentifierContent"
  | .quotedIdentifierEnd => "QuotedIdentifierEnd"
  | .quotedIdentifierStart => "QuotedIdentifierStart"
  | .rightBrace => "RightBrace"
  | .rightBracket => "RightBracket"
  | .rightParenthesis => "RightParenthesis"
  | .semicolon => "Semicolon"
  | .textLiteral => "TextLiteral"
  | .textLiteralContent => "TextLiteralContent"
  | .textLiteralEnd => "TextLiteralEnd"
  | .textLiteralStart => "TextLiteralStart"

/-- The kind reported under a name. -/
def ofName? (name : String) : Option Kind :=
  all.find? (·.name == name)

theorem mem_all (kind : Kind) : kind ∈ all := by
  cases kind <;> decide

end Kind

end TokenConcord.Lexing
