import TokenConcord.Pattern.Property.Binary
import TokenConcord.Unicode.Scripts

/-!
# Roles at breaks

The role of a character where text is divided into user-perceived characters, words and
sentences. Within one division no character has two roles.
-/

namespace TokenConcord.Pattern

open Unicode CharSet

/-- The carriage return. -/
def carriageReturn : CharSet := single '\r'

/-- The line feed. -/
def lineFeed : CharSet := single '\n'

/-- The zero width joiner. -/
def joiner : CharSet := range 0x200D 0x200D

/-- The zero width joiner and non-joiner. -/
def joiners : CharSet := ofRuns joinControl

/-- Invisible signs that are no part of their neighbours. -/
def detachedFormat : CharSet :=
  (ofRuns format).diff (unions [joiners, ofTables [prependedConcatenationMark, tagCharacter]])

/-! ## User-perceived characters -/

/-- Characters that continue the one before them. -/
def clusterExtend : CharSet := graphemeExtend.union (ofRuns emojiModifier)

/-- Controls and what is ignored by default, where it has no other role. -/
def clusterControl : CharSet :=
  let ignored := (ofTables assignedTables).compl.inter defaultIgnorable
  (unions [ofTables [control, format, lineSeparator, paragraphSeparator], ignored]).diff <|
    unions [carriageReturn, lineFeed, clusterExtend, joiner, ofRuns prependedConcatenationMark]

/-- Marks that take space and belong to the letter before them. -/
def clusterSpacing : CharSet :=
  (ofTables [spacingMark, spacingVowel]).diff
    (clusterExtend.union (ofRuns detachedSpacingMark))

/-- Korean syllables without a trailing consonant. -/
def openSyllable : CharSet :=
  ofList ((List.range 399).map fun i => 0xAC00 + 28 * i)

/-- Roles in user-perceived characters, each under its names. -/
def clusterBreaks : List (List String × CharSet) :=
  [(["cr"], carriageReturn),
    (["cn", "control"], clusterControl),
    (["ex", "extend"], clusterExtend),
    (["l"], ofRuns leadingJamo),
    (["lf"], lineFeed),
    (["lv"], openSyllable),
    (["lvt"], (ofRuns koreanSyllable).diff openSyllable),
    (["pp", "prepend"], ofTables [prependedConcatenationMark, prependedLetter]),
    (["ri", "regionalindicator"], ofRuns regionalIndicator),
    (["sm", "spacingmark"], clusterSpacing),
    (["t"], ofRuns trailingJamo),
    (["v"], ofRuns vowelJamo),
    (["zwj"], joiner)]

/-! ## Words -/

/-- Characters that continue the one before them in a word. -/
def wordExtend : CharSet :=
  (unions [graphemeExtend, ofTables [spacingMark, emojiModifier]]).diff joiner

/-- The Katakana and the signs that go with them. -/
def wordKatakana : CharSet := ofTables [Script.katakana, katakanaSign]

/-- The Hebrew letters. -/
def hebrewLetter : CharSet := (ofRuns Script.hebrew).inter (ofRuns otherLetter)

/-- Letters of scripts that divide words by spaces. -/
def wordLetters : CharSet :=
  ((ofTables alphabetics).diff <| unions [ofTables [unifiedIdeograph, otherIdeograph],
    wordKatakana, ofRuns Script.hiragana, wordExtend, hebrewLetter,
    ofRuns complexContext]).union (ofRuns wordLetter)

/-- Digits, and the invisible signs that enclose them. -/
def numericBase : CharSet :=
  (ofTables [decimalNumber, prependedConcatenationMark, otherNumericSign]).diff
    (range 0x70F 0x70F)

/-- Roles in words, each under its names. -/
def wordBreaks : List (List String × CharSet) :=
  [(["le", "aletter"], wordLetters),
    (["cr"], carriageReturn),
    (["dq", "doublequote"], single '"'),
    (["extend"], wordExtend),
    (["ex", "extendnumlet"], (ofRuns connectorPunctuation).union (range 0x202F 0x202F)),
    (["fo", "format"], detachedFormat.diff (range 0x200B 0x200B)),
    (["hl", "hebrewletter"], hebrewLetter),
    (["ka", "katakana"], wordKatakana),
    (["lf"], lineFeed),
    (["ml", "midletter"], ofRuns midLetter),
    (["mn", "midnum"], ofRuns midNumber),
    (["mb", "midnumlet"], ofRuns midLetterOrNumber),
    (["nl", "newline"], ofRuns lineBreak),
    (["nu", "numeric"], numericBase),
    (["ri", "regionalindicator"], ofRuns regionalIndicator),
    (["sq", "singlequote"], ofRuns singleQuote),
    (["wsegspace"], ofRuns wordSpace),
    (["zwj"], joiner)]

/-! ## Sentences -/

/-- Characters that continue the one before them in a sentence. -/
def sentenceExtend : CharSet := unions [graphemeExtend, ofRuns spacingMark, joiner]

/-- Letters in lower case that may follow a full stop inside a sentence. -/
def sentenceLower : CharSet := lowercase.diff (sentenceExtend.union (ofRuns titlelessLetter))

/-- Letters that may start a sentence. -/
def sentenceUpper : CharSet :=
  (uppercase.union (ofRuns titlecaseLetter)).diff (ofRuns titlelessLetter)

/-- Roles in sentences, each under its names. -/
def sentenceBreaks : List (List String × CharSet) :=
  [(["at", "aterm"], ofRuns ambiguousTerminal),
    (["cl", "close"], ofTables [openPunctuation, closePunctuation, initialPunctuation,
      finalPunctuation, otherQuotation]),
    (["cr"], carriageReturn),
    (["ex", "extend"], sentenceExtend),
    (["fo", "format"], detachedFormat.union (range 0x70F 0x70F)),
    (["lf"], lineFeed),
    (["lo", "lower"], sentenceLower),
    (["nu", "numeric"], numericBase.union (range 0x66C 0x66C)),
    (["le", "oletter"], ((ofTables alphabetics).union (range 0x5F3 0x5F3)).diff
      (unions [sentenceLower, sentenceUpper, sentenceExtend])),
    (["sc", "scontinue"], ofRuns sentenceContinuation),
    (["se", "sep"], ofRuns paragraphBreak),
    (["sp"], (ofRuns whiteSpace).diff (unions [carriageReturn, lineFeed,
      ofRuns paragraphBreak])),
    (["st", "sterm"], (ofRuns sentenceTerminal).diff (ofRuns ambiguousTerminal)),
    (["up", "upper"], sentenceUpper)]

end TokenConcord.Pattern
