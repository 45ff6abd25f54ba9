import TokenConcord.Unicode.Exceptional
import TokenConcord.Unicode.Diacritics
import TokenConcord.Unicode.Invisible
import TokenConcord.Unicode.Later
import TokenConcord.Unicode.Letters
import TokenConcord.Unicode.Marks
import TokenConcord.Unicode.Numbers
import TokenConcord.Unicode.Punctuation
import TokenConcord.Unicode.Runs
import TokenConcord.Unicode.Symbols

/-!
# Properties of characters

The general categories as lists of tables, and tests of one character for the properties that
lexing, names and quoting ask for. Names and quoted text know the later characters as well.
-/

namespace TokenConcord.Unicode

/-- Tables of the general category L. -/
def letters : List (List Nat) :=
  [lowercaseLetter, uppercaseLetter, titlecaseLetter, modifierLetter, otherLetter]

/-- Tables of the general category M. -/
def marks : List (List Nat) :=
  [nonspacingMark, spacingMark, enclosingMark]

/-- Tables of the general category N. -/
def numbers : List (List Nat) :=
  [decimalNumber, letterNumber, otherNumber]

/-- Tables of the general category P. -/
def punctuation : List (List Nat) :=
  [connectorPunctuation, dashPunctuation, openPunctuation, closePunctuation,
    initialPunctuation, finalPunctuation, otherPunctuation]

/-- Tables of the general category S. -/
def symbols : List (List Nat) :=
  [mathSymbol, currencySymbol, modifierSymbol, otherSymbol]

/-- Tables of the general category Z. -/
def separators : List (List Nat) :=
  [spaceSeparator, lineSeparator, paragraphSeparator]

/-- Tables of the alphabetic characters. -/
def alphabetics : List (List Nat) :=
  letters ++ [letterNumber, alphabeticMark]

/-- The zero width joiner and non-joiner. -/
def joinControl : List Nat := [0x200C, 0x200D]

/-- Tables of the characters that words are made of: letters, marks, decimal digits and
connectors. -/
def wordTables : List (List Nat) :=
  alphabetics ++ [decimalNumber, connectorPunctuation] ++ marks ++ [joinControl]

/-- Tables of all characters that leave something to see. -/
def graphicTables : List (List Nat) :=
  letters ++ punctuation ++ symbols ++ numbers ++ marks

/-- Tables of all characters with a general category of their own. -/
def assignedTables : List (List Nat) :=
  graphicTables ++ separators ++ [control, format, privateUse]

/-- Tables of the characters that continue the user-perceived character before them. -/
def graphemeExtendTables : List (List Nat) :=
  [nonspacingMark, enclosingMark, otherGraphemeExtend]

/-- General category L. -/
def isLetter (c : Char) : Bool := coveredBy letters c.toNat

/-- General category Nd. -/
def isDecimalDigit (c : Char) : Bool := covers decimalNumber c.toNat

/-- White space in running text. -/
def isWhiteSpace (c : Char) : Bool := covers whiteSpace c.toNat

/-- Alphabetic characters, later ones included. -/
def isAlphabetic (c : Char) : Bool := coveredBy (alphabetics ++ [laterAlphabetic]) c.toNat

/-- Alphabetic characters and numbers of every kind, later ones included. -/
def isAlphanumeric (c : Char) : Bool :=
  isAlphabetic c || coveredBy (numbers ++ [laterNumber]) c.toNat

/-- Characters that can be shown as they are: the space and all that leaves something
to see, later characters included. -/
def isPrintable (c : Char) : Bool :=
  c == ' ' || coveredBy (graphicTables ++ [laterGraphic]) c.toNat

/-- Characters that continue the user-perceived character before them, later ones
included. -/
def isGraphemeExtend (c : Char) : Bool :=
  coveredBy (graphemeExtendTables ++ [laterGraphemeExtend]) c.toNat

end TokenConcord.Unicode
