import TokenConcord.Pattern.CharSet
import TokenConcord.Unicode.Property

/-!
# General categories

Every character has one general category. A pattern refers to a category or to a union of
categories by a short name or by a long one. Surrogates are no characters, and their category
has no class.
-/

namespace TokenConcord.Pattern

open Unicode CharSet

/-- General categories and unions of them, each under its names. -/
def generalCategories : List (List String × CharSet) :=
  [(["any"], none.compl),
    (["ascii"], range 0 127),
    (["assigned"], ofTables assignedTables),
    (["l", "letter"], ofTables letters),
    (["lc", "casedletter"], ofTables [uppercaseLetter, lowercaseLetter, titlecaseLetter]),
    (["lu", "uppercaseletter"], ofRuns uppercaseLetter),
    (["ll", "lowercaseletter"], ofRuns lowercaseLetter),
    (["lt", "titlecaseletter"], ofRuns titlecaseLetter),
    (["lm", "modifierletter"], ofRuns modifierLetter),
    (["lo", "otherletter"], ofRuns otherLetter),
    (["m", "mark", "combiningmark"], ofTables marks),
    (["mn", "nonspacingmark"], ofRuns nonspacingMark),
    (["mc", "spacingmark"], ofRuns spacingMark),
    (["me", "enclosingmark"], ofRuns enclosingMark),
    (["n", "number"], ofTables numbers),
    (["nd", "decimalnumber", "digit"], ofRuns decimalNumber),
    (["nl", "letternumber"], ofRuns letterNumber),
    (["no", "othernumber"], ofRuns otherNumber),
    (["p", "punctuation", "punct"], ofTables punctuation),
    (["pc", "connectorpunctuation"], ofRuns connectorPunctuation),
    (["pd", "dashpunctuation"], ofRuns dashPunctuation),
    (["ps", "openpunctuation"], ofRuns openPunctuation),
    (["pe", "closepunctuation"], ofRuns closePunctuation),
    (["pi", "initialpunctuation"], ofRuns initialPunctuation),
    (["pf", "finalpunctuation"], ofRuns finalPunctuation),
    (["po", "otherpunctuation"], ofRuns otherPunctuation),
    (["s", "symbol"], ofTables symbols),
    (["sm", "mathsymbol"], ofRuns mathSymbol),
    (["sc", "currencysymbol"], ofRuns currencySymbol),
    (["sk", "modifiersymbol"], ofRuns modifierSymbol),
    (["so", "othersymbol"], ofRuns otherSymbol),
    (["z", "separator"], ofTables separators),
    (["zs", "spaceseparator"], ofRuns spaceSeparator),
    (["zl", "lineseparator"], ofRuns lineSeparator),
    (["zp", "paragraphseparator"], ofRuns paragraphSeparator),
    (["c", "other"], (ofTables (graphicTables ++ separators)).compl),
    (["cc", "control", "cntrl"], ofRuns control),
    (["cf", "format"], ofRuns format),
    (["cn", "unassigned"], (ofTables assignedTables).compl),
    (["co", "privateuse"], ofRuns privateUse)]

/-- Digits of all decimal systems. -/
def digitClass : CharSet := ofRuns decimalNumber

/-- White space. -/
def spaceClass : CharSet := ofRuns whiteSpace

/-- Characters that words are made of. -/
def wordClass : CharSet := ofTables wordTables

end TokenConcord.Pattern
