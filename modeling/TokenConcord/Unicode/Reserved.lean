/-!
# Reserved code points

Code points set apart for a purpose of their own. Runs of code points, ascending and disjoint,
each written as its first and its last code point.
-/

namespace TokenConcord.Unicode

set_option maxRecDepth 8192

/-- Code points that no character is ever assigned to. -/
def noncharacter : List Nat :=
  [0xFDD0, 0xFDEF, 0xFFFE, 0xFFFF, 0x1FFFE, 0x1FFFF, 0x2FFFE, 0x2FFFF, 0x3FFFE, 0x3FFFF, 0x4FFFE,
    0x4FFFF, 0x5FFFE, 0x5FFFF, 0x6FFFE, 0x6FFFF, 0x7FFFE, 0x7FFFF, 0x8FFFE, 0x8FFFF, 0x9FFFE,
    0x9FFFF, 0xAFFFE, 0xAFFFF, 0xBFFFE, 0xBFFFF, 0xCFFFE, 0xCFFFF, 0xDFFFE, 0xDFFFF, 0xEFFFE,
    0xEFFFF, 0xFFFFE, 0xFFFFF, 0x10FFFE, 0x10FFFF]

/-- Characters that are best avoided. -/
def discouraged : List Nat :=
  [0x149, 0x149, 0x673, 0x673, 0xF77, 0xF77, 0xF79, 0xF79, 0x17A3, 0x17A4, 0x206A, 0x206F,
    0x2329, 0x232A, 0xE0001, 0xE0001]

/-- Characters that choose a variant of the one before them. -/
def variationSelector : List Nat :=
  [0x180B, 0x180D, 0x180F, 0x180F, 0xFE00, 0xFE0F, 0xE0100, 0xE01EF]

/-- Code points outside the format characters and variation selectors that leave nothing to see
where they are not supported. -/
def otherDefaultIgnorable : List Nat :=
  [0x34F, 0x34F, 0x115F, 0x1160, 0x17B4, 0x17B5, 0x2065, 0x2065, 0x3164, 0x3164, 0xFFA0, 0xFFA0,
    0xFFF0, 0xFFF8, 0xE0000, 0xE0000, 0xE0002, 0xE001F, 0xE0080, 0xE00FF, 0xE01F0, 0xE0FFF]

/-- Hexadecimal digits of either width. -/
def hexDigit : List Nat :=
  [0x30, 0x39, 0x41, 0x46, 0x61, 0x66, 0xFF10, 0xFF19, 0xFF21, 0xFF26, 0xFF41, 0xFF46]

end TokenConcord.Unicode
