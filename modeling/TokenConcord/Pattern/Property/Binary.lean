import TokenConcord.Pattern.CharSet
import TokenConcord.Unicode.Casing
import TokenConcord.Unicode.Delimiters
import TokenConcord.Unicode.Diacritics
import TokenConcord.Unicode.Emoji
import TokenConcord.Unicode.Identifiers
import TokenConcord.Unicode.Ideographs
import TokenConcord.Unicode.LowerCase
import TokenConcord.Unicode.Property
import TokenConcord.Unicode.Reserved
import TokenConcord.Unicode.Breaks

/-!
# Properties that a character has or has not

Most of these properties follow from the general category, from other properties and from a
short list of exceptions.
-/

namespace TokenConcord.Pattern

open Unicode CharSet

/-! ## Case -/

/-- Characters in upper case. -/
def uppercase : CharSet := ofTables [uppercaseLetter, uppercaseSymbol]

/-- Characters in lower case. -/
def lowercase : CharSet := ofTables [lowercaseLetter, lowercaseSymbol]

/-- Characters in upper, lower or title case. -/
def cased : CharSet := unions [uppercase, lowercase, ofRuns titlecaseLetter]

/-- Characters that do not interrupt a word where case is decided. -/
def caseIgnorable : CharSet :=
  ofTables [nonspacingMark, enclosingMark, format, modifierLetter, modifierSymbol, midLetter,
    midLetterOrNumber, singleQuote]

/-- Characters with a lower case other than themselves. -/
def changesWhenLowercased : CharSet :=
  (unions [ofList (lowerRuns.flatMap (·.codePoints)), single '\u0130']).diff
    (ofRuns laterGraphic)

/-- Characters with an upper case other than themselves. -/
def changesWhenUppercased : CharSet :=
  ((ofList (foldRuns.flatMap (·.images))).diff (ofRuns foldedUppercase)).union
    (ofRuns alsoUppercased)

/-- Characters with a title case other than themselves. -/
def changesWhenTitlecased : CharSet :=
  (changesWhenUppercased.diff (ofRuns notTitlecased)).union (ofRuns alsoTitlecased)

/-- Characters that fold to something other than themselves. -/
def changesWhenCasefolded : CharSet :=
  ((ofList (foldRuns.flatMap (·.codePoints))).diff (ofRuns foldedApart)).union
    (ofRuns alsoFolded)

/-- Characters that some change of case changes. -/
def changesWhenCasemapped : CharSet :=
  unions [changesWhenLowercased, changesWhenUppercased, changesWhenTitlecased]

/-! ## Identifiers -/

/-- Characters that are syntax or white space for ever. -/
def patternCharacters : CharSet := ofTables [patternSyntax, patternWhiteSpace]

/-- Characters that may start an identifier. -/
def idStart : CharSet :=
  (ofTables (letters ++ [letterNumber, otherIdStart])).diff patternCharacters

/-- Characters that may continue an identifier. -/
def idContinue : CharSet :=
  idStart.union <| (ofTables [nonspacingMark, spacingMark, decimalNumber, connectorPunctuation,
    otherIdContinue]).diff patternCharacters

/-! ## Appearance -/

/-- Code points that leave nothing to see where they are not supported. -/
def defaultIgnorable : CharSet :=
  (ofTables [otherDefaultIgnorable, format, variationSelector]).diff <|
    ofTables [whiteSpace, prependedConcatenationMark, [0xFFF9, 0xFFFB], [0x13430, 0x13440]]

/-- Characters that continue the user-perceived character before them. -/
def graphemeExtend : CharSet := ofTables graphemeExtendTables

/-- Characters that stand by themselves. -/
def graphemeBase : CharSet := (ofTables (graphicTables ++ [spaceSeparator])).diff graphemeExtend

/-! ## Names -/

/-- The properties, each under its names. -/
def binaryProperties : List (List String × CharSet) :=
  [(["ahex", "asciihexdigit"], unions [between '0' '9', between 'A' 'F', between 'a' 'f']),
    (["alpha", "alphabetic"], ofTables alphabetics),
    (["bidic", "bidicontrol"], ofRuns bidiControl),
    (["bidim", "bidimirrored"], ofRuns bidiMirrored),
    (["cased"], cased),
    (["ci", "caseignorable"], caseIgnorable),
    (["cwcf", "changeswhencasefolded"], changesWhenCasefolded),
    (["cwcm", "changeswhencasemapped"], changesWhenCasemapped),
    (["cwl", "changeswhenlowercased"], changesWhenLowercased),
    (["cwt", "changeswhentitlecased"], changesWhenTitlecased),
    (["cwu", "changeswhenuppercased"], changesWhenUppercased),
    (["dash"], ofRuns dash),
    (["dep", "deprecated"], ofRuns discouraged),
    (["di", "defaultignorablecodepoint"], defaultIgnorable),
    (["dia", "diacritic"], ofRuns diacritic),
    (["ebase", "emojimodifierbase"], ofRuns emojiModifierBase),
    (["ecomp", "emojicomponent"], ofRuns emojiComponent),
    (["emod", "emojimodifier"], ofRuns emojiModifier),
    (["emoji"], ofRuns emoji),
    (["epres", "emojipresentation"], ofRuns emojiPresentation),
    (["ext", "extender"], ofRuns extender),
    (["extpict", "extendedpictographic"], ofRuns extendedPictographic),
    (["grbase", "graphemebase"], graphemeBase),
    (["grext", "graphemeextend"], graphemeExtend),
    (["grlink", "graphemelink"], ofRuns graphemeLink),
    (["hex", "hexdigit"], ofRuns hexDigit),
    (["hyphen"], ofRuns hyphen),
    (["idc", "idcontinue"], idContinue),
    (["idcompatmathcontinue"], ofRuns mathContinue),
    (["idcompatmathstart"], ofRuns mathStart),
    (["ideo", "ideographic"], ofTables [unifiedIdeograph, otherIdeograph]),
    (["ids", "idstart"], idStart),
    (["idsb", "idsbinaryoperator"], ofRuns descriptionOfTwo),
    (["idst", "idstrinaryoperator"], ofRuns descriptionOfThree),
    (["idsu", "idsunaryoperator"], ofRuns descriptionOfOne),
    (["joinc", "joincontrol"], ofRuns joinControl),
    (["loe", "logicalorderexception"], ofRuns logicalOrderException),
    (["lower", "lowercase"], lowercase),
    (["math"], ofTables [mathSymbol, mathLetter]),
    (["mcm", "modifiercombiningmark"], ofRuns modifierCombiningMark),
    (["nchar", "noncharactercodepoint"], ofRuns noncharacter),
    (["oalpha", "otheralphabetic"], ofRuns alphabeticMark),
    (["odi", "otherdefaultignorablecodepoint"], ofRuns otherDefaultIgnorable),
    (["ogrext", "othergraphemeextend"], ofRuns otherGraphemeExtend),
    (["oidc", "otheridcontinue"], ofRuns otherIdContinue),
    (["oids", "otheridstart"], ofRuns otherIdStart),
    (["olower", "otherlowercase"], ofRuns lowercaseSymbol),
    (["omath", "othermath"], ofRuns mathLetter),
    (["oupper", "otheruppercase"], ofRuns uppercaseSymbol),
    (["patsyn", "patternsyntax"], ofRuns patternSyntax),
    (["patws", "patternwhitespace"], ofRuns patternWhiteSpace),
    (["pcm", "prependedconcatenationmark"], ofRuns prependedConcatenationMark),
    (["qmark", "quotationmark"], ofRuns quotationMark),
    (["radical"], ofRuns radical),
    (["ri", "regionalindicator"], ofRuns regionalIndicator),
    (["sd", "softdotted"], ofRuns softDotted),
    (["space", "whitespace", "wspace"], ofRuns whiteSpace),
    (["sterm", "sentenceterminal"], ofRuns sentenceTerminal),
    (["term", "terminalpunctuation"], ofRuns terminalPunctuation),
    (["uideo", "unifiedideograph"], ofRuns unifiedIdeograph),
    (["upper", "uppercase"], uppercase),
    (["vs", "variationselector"], ofRuns variationSelector),
    (["xidc", "xidcontinue"], idContinue.diff (ofRuns unstableContinue)),
    (["xids", "xidstart"], idStart.diff (ofRuns unstableStart))]

end TokenConcord.Pattern
