/-!
# Diacritics and neighbours

Characters that bear on the characters around them. Runs of code points, ascending and disjoint,
each written as its first and its last code point.
-/

namespace TokenConcord.Unicode

set_option maxRecDepth 8192

/-- Characters that modify another one linguistically. -/
def diacritic : List Nat :=
  [0x5E, 0x5E, 0x60, 0x60, 0xA8, 0xA8, 0xAF, 0xAF, 0xB4, 0xB4, 0xB7, 0xB8, 0x2B0, 0x34E, 0x350,
    0x357, 0x35D, 0x362, 0x374, 0x375, 0x37A, 0x37A, 0x384, 0x385, 0x483, 0x487, 0x559, 0x559,
    0x591, 0x5A1, 0x5A3, 0x5BD, 0x5BF, 0x5BF, 0x5C1, 0x5C2, 0x5C4, 0x5C4, 0x64B, 0x652, 0x657,
    0x658, 0x6DF, 0x6E0, 0x6E5, 0x6E6, 0x6EA, 0x6EC, 0x730, 0x74A, 0x7A6, 0x7B0, 0x7EB, 0x7F5,
    0x818, 0x819, 0x898, 0x89F, 0x8C9, 0x8D2, 0x8E3, 0x8FE, 0x93C, 0x93C, 0x94D, 0x94D, 0x951,
    0x954, 0x971, 0x971, 0x9BC, 0x9BC, 0x9CD, 0x9CD, 0xA3C, 0xA3C, 0xA4D, 0xA4D, 0xABC, 0xABC,
    0xACD, 0xACD, 0xAFD, 0xAFF, 0xB3C, 0xB3C, 0xB4D, 0xB4D, 0xB55, 0xB55, 0xBCD, 0xBCD, 0xC3C,
    0xC3C, 0xC4D, 0xC4D, 0xCBC, 0xCBC, 0xCCD, 0xCCD, 0xD3B, 0xD3C, 0xD4D, 0xD4D, 0xDCA, 0xDCA,
    0xE3A, 0xE3A, 0xE47, 0xE4C, 0xE4E, 0xE4E, 0xEBA, 0xEBA, 0xEC8, 0xECC, 0xF18, 0xF19, 0xF35,
    0xF35, 0xF37, 0xF37, 0xF39, 0xF39, 0xF3E, 0xF3F, 0xF82, 0xF84, 0xF86, 0xF87, 0xFC6, 0xFC6,
    0x1037, 0x1037, 0x1039, 0x103A, 0x1063, 0x1064, 0x1069, 0x106D, 0x1087, 0x108D, 0x108F,
    0x108F, 0x109A, 0x109B, 0x135D, 0x135F, 0x1714, 0x1715, 0x1734, 0x1734, 0x17C9, 0x17D3,
    0x17DD, 0x17DD, 0x1939, 0x193B, 0x1A60, 0x1A60, 0x1A75, 0x1A7C, 0x1A7F, 0x1A7F, 0x1AB0,
    0x1ABE, 0x1AC1, 0x1ACB, 0x1B34, 0x1B34, 0x1B44, 0x1B44, 0x1B6B, 0x1B73, 0x1BAA, 0x1BAB,
    0x1BE6, 0x1BE6, 0x1BF2, 0x1BF3, 0x1C36, 0x1C37, 0x1C78, 0x1C7D, 0x1CD0, 0x1CE8, 0x1CED,
    0x1CED, 0x1CF4, 0x1CF4, 0x1CF7, 0x1CF9, 0x1D2C, 0x1D6A, 0x1DC4, 0x1DCF, 0x1DF5, 0x1DFF,
    0x1FBD, 0x1FBD, 0x1FBF, 0x1FC1, 0x1FCD, 0x1FCF, 0x1FDD, 0x1FDF, 0x1FED, 0x1FEF, 0x1FFD,
    0x1FFE, 0x2CEF, 0x2CF1, 0x2E2F, 0x2E2F, 0x302A, 0x302F, 0x3099, 0x309C, 0x30FC, 0x30FC,
    0xA66F, 0xA66F, 0xA67C, 0xA67D, 0xA67F, 0xA67F, 0xA69C, 0xA69D, 0xA6F0, 0xA6F1, 0xA700,
    0xA721, 0xA788, 0xA78A, 0xA7F8, 0xA7F9, 0xA806, 0xA806, 0xA82C, 0xA82C, 0xA8C4, 0xA8C4,
    0xA8E0, 0xA8F1, 0xA92B, 0xA92E, 0xA953, 0xA953, 0xA9B3, 0xA9B3, 0xA9C0, 0xA9C0, 0xA9E5,
    0xA9E5, 0xAA7B, 0xAA7D, 0xAABF, 0xAAC2, 0xAAF6, 0xAAF6, 0xAB5B, 0xAB5F, 0xAB69, 0xAB6B,
    0xABEC, 0xABED, 0xFB1E, 0xFB1E, 0xFE20, 0xFE2F, 0xFF3E, 0xFF3E, 0xFF40, 0xFF40, 0xFF70,
    0xFF70, 0xFF9E, 0xFF9F, 0xFFE3, 0xFFE3, 0x102E0, 0x102E0, 0x10780, 0x10785, 0x10787, 0x107B0,
    0x107B2, 0x107BA, 0x10A38, 0x10A3A, 0x10A3F, 0x10A3F, 0x10AE5, 0x10AE6, 0x10D22, 0x10D27,
    0x10D4E, 0x10D4E, 0x10D69, 0x10D6D, 0x10EFD, 0x10EFF, 0x10F46, 0x10F50, 0x10F82, 0x10F85,
    0x11046, 0x11046, 0x11070, 0x11070, 0x110B9, 0x110BA, 0x11133, 0x11134, 0x11173, 0x11173,
    0x111C0, 0x111C0, 0x111CA, 0x111CC, 0x11235, 0x11236, 0x112E9, 0x112EA, 0x1133B, 0x1133C,
    0x1134D, 0x1134D, 0x11366, 0x1136C, 0x11370, 0x11374, 0x113CE, 0x113D0, 0x113D2, 0x113D3,
    0x113E1, 0x113E2, 0x11442, 0x11442, 0x11446, 0x11446, 0x114C2, 0x114C3, 0x115BF, 0x115C0,
    0x1163F, 0x1163F, 0x116B6, 0x116B7, 0x1172B, 0x1172B, 0x11839, 0x1183A, 0x1193D, 0x1193E,
    0x11943, 0x11943, 0x119E0, 0x119E0, 0x11A34, 0x11A34, 0x11A47, 0x11A47, 0x11A99, 0x11A99,
    0x11C3F, 0x11C3F, 0x11D42, 0x11D42, 0x11D44, 0x11D45, 0x11D97, 0x11D97, 0x11F41, 0x11F42,
    0x11F5A, 0x11F5A, 0x13447, 0x13455, 0x1612F, 0x1612F, 0x16AF0, 0x16AF4, 0x16B30, 0x16B36,
    0x16D6B, 0x16D6C, 0x16F8F, 0x16F9F, 0x16FF0, 0x16FF1, 0x1AFF0, 0x1AFF3, 0x1AFF5, 0x1AFFB,
    0x1AFFD, 0x1AFFE, 0x1CF00, 0x1CF2D, 0x1CF30, 0x1CF46, 0x1D167, 0x1D169, 0x1D16D, 0x1D172,
    0x1D17B, 0x1D182, 0x1D185, 0x1D18B, 0x1D1AA, 0x1D1AD, 0x1E030, 0x1E06D, 0x1E130, 0x1E136,
    0x1E2AE, 0x1E2AE, 0x1E2EC, 0x1E2EF, 0x1E5EE, 0x1E5EF, 0x1E8D0, 0x1E8D6, 0x1E944, 0x1E946,
    0x1E948, 0x1E94A]

/-- Characters that lengthen or repeat the one before them. -/
def extender : List Nat :=
  [0xB7, 0xB7, 0x2D0, 0x2D1, 0x640, 0x640, 0x7FA, 0x7FA, 0xA71, 0xA71, 0xAFB, 0xAFB, 0xB55,
    0xB55, 0xE46, 0xE46, 0xEC6, 0xEC6, 0x180A, 0x180A, 0x1843, 0x1843, 0x1AA7, 0x1AA7, 0x1C36,
    0x1C36, 0x1C7B, 0x1C7B, 0x3005, 0x3005, 0x3031, 0x3035, 0x309D, 0x309E, 0x30FC, 0x30FE,
    0xA015, 0xA015, 0xA60C, 0xA60C, 0xA9CF, 0xA9CF, 0xA9E6, 0xA9E6, 0xAA70, 0xAA70, 0xAADD,
    0xAADD, 0xAAF3, 0xAAF4, 0xFF70, 0xFF70, 0x10781, 0x10782, 0x10D4E, 0x10D4E, 0x10D6A, 0x10D6A,
    0x10D6F, 0x10D6F, 0x11237, 0x11237, 0x1135D, 0x1135D, 0x113D2, 0x113D3, 0x115C6, 0x115C8,
    0x11A98, 0x11A98, 0x16B42, 0x16B43, 0x16FE0, 0x16FE1, 0x16FE3, 0x16FE3, 0x1E13C, 0x1E13D,
    0x1E5EF, 0x1E5EF, 0x1E944, 0x1E946]

/-- Letters whose dot gives way to an accent. -/
def softDotted : List Nat :=
  [0x69, 0x6A, 0x12F, 0x12F, 0x249, 0x249, 0x268, 0x268, 0x29D, 0x29D, 0x2B2, 0x2B2, 0x3F3,
    0x3F3, 0x456, 0x456, 0x458, 0x458, 0x1D62, 0x1D62, 0x1D96, 0x1D96, 0x1DA4, 0x1DA4, 0x1DA8,
    0x1DA8, 0x1E2D, 0x1E2D, 0x1ECB, 0x1ECB, 0x2071, 0x2071, 0x2148, 0x2149, 0x2C7C, 0x2C7C,
    0x1D422, 0x1D423, 0x1D456, 0x1D457, 0x1D48A, 0x1D48B, 0x1D4BE, 0x1D4BF, 0x1D4F2, 0x1D4F3,
    0x1D526, 0x1D527, 0x1D55A, 0x1D55B, 0x1D58E, 0x1D58F, 0x1D5C2, 0x1D5C3, 0x1D5F6, 0x1D5F7,
    0x1D62A, 0x1D62B, 0x1D65E, 0x1D65F, 0x1D692, 0x1D693, 0x1DF1A, 0x1DF1A, 0x1E04C, 0x1E04D,
    0x1E068, 0x1E068]

/-- Signs that suppress the vowel of a consonant and join it to the next one. -/
def graphemeLink : List Nat :=
  [0x94D, 0x94D, 0x9CD, 0x9CD, 0xA4D, 0xA4D, 0xACD, 0xACD, 0xB4D, 0xB4D, 0xBCD, 0xBCD, 0xC4D,
    0xC4D, 0xCCD, 0xCCD, 0xD3B, 0xD3C, 0xD4D, 0xD4D, 0xDCA, 0xDCA, 0xE3A, 0xE3A, 0xEBA, 0xEBA,
    0xF84, 0xF84, 0x1039, 0x103A, 0x1714, 0x1715, 0x1734, 0x1734, 0x17D2, 0x17D2, 0x1A60, 0x1A60,
    0x1B44, 0x1B44, 0x1BAA, 0x1BAB, 0x1BF2, 0x1BF3, 0x2D7F, 0x2D7F, 0xA806, 0xA806, 0xA82C,
    0xA82C, 0xA8C4, 0xA8C4, 0xA953, 0xA953, 0xA9C0, 0xA9C0, 0xAAF6, 0xAAF6, 0xABED, 0xABED,
    0x10A3F, 0x10A3F, 0x11046, 0x11046, 0x11070, 0x11070, 0x1107F, 0x1107F, 0x110B9, 0x110B9,
    0x11133, 0x11134, 0x111C0, 0x111C0, 0x11235, 0x11235, 0x112EA, 0x112EA, 0x1134D, 0x1134D,
    0x113CE, 0x113D0, 0x11442, 0x11442, 0x114C2, 0x114C2, 0x115BF, 0x115BF, 0x1163F, 0x1163F,
    0x116B6, 0x116B6, 0x1172B, 0x1172B, 0x11839, 0x11839, 0x1193D, 0x1193E, 0x119E0, 0x119E0,
    0x11A34, 0x11A34, 0x11A47, 0x11A47, 0x11A99, 0x11A99, 0x11C3F, 0x11C3F, 0x11D44, 0x11D45,
    0x11D97, 0x11D97, 0x11F41, 0x11F42, 0x1612F, 0x1612F]

/-- Characters outside the marks without a width of their own that continue the user-perceived
character before them. -/
def otherGraphemeExtend : List Nat :=
  [0x9BE, 0x9BE, 0x9D7, 0x9D7, 0xB3E, 0xB3E, 0xB57, 0xB57, 0xBBE, 0xBBE, 0xBD7, 0xBD7, 0xCC0,
    0xCC0, 0xCC2, 0xCC2, 0xCC7, 0xCC8, 0xCCA, 0xCCB, 0xCD5, 0xCD6, 0xD3E, 0xD3E, 0xD57, 0xD57,
    0xDCF, 0xDCF, 0xDDF, 0xDDF, 0x1715, 0x1715, 0x1734, 0x1734, 0x1B35, 0x1B35, 0x1B3B, 0x1B3B,
    0x1B3D, 0x1B3D, 0x1B43, 0x1B44, 0x1BAA, 0x1BAA, 0x1BF2, 0x1BF3, 0x200C, 0x200C, 0x302E,
    0x302F, 0xA953, 0xA953, 0xA9C0, 0xA9C0, 0xFF9E, 0xFF9F, 0x111C0, 0x111C0, 0x11235, 0x11235,
    0x1133E, 0x1133E, 0x1134D, 0x1134D, 0x11357, 0x11357, 0x113B8, 0x113B8, 0x113C2, 0x113C2,
    0x113C5, 0x113C5, 0x113C7, 0x113C9, 0x113CF, 0x113CF, 0x114B0, 0x114B0, 0x114BD, 0x114BD,
    0x115AF, 0x115AF, 0x116B6, 0x116B6, 0x11930, 0x11930, 0x1193D, 0x1193D, 0x11F41, 0x11F41,
    0x16FF0, 0x16FF1, 0x1D165, 0x1D166, 0x1D16D, 0x1D172, 0xE0020, 0xE007F]

/-- Vowels written before the consonant they follow in speech. -/
def logicalOrderException : List Nat :=
  [0xE40, 0xE44, 0xEC0, 0xEC4, 0x19B5, 0x19B7, 0x19BA, 0x19BA, 0xAAB5, 0xAAB6, 0xAAB9, 0xAAB9,
    0xAABB, 0xAABC]

/-- Marks that are part of a letter and precede other marks. -/
def modifierCombiningMark : List Nat :=
  [0x654, 0x655, 0x658, 0x658, 0x6DC, 0x6DC, 0x6E3, 0x6E3, 0x6E7, 0x6E8, 0x8CA, 0x8CB, 0x8CD,
    0x8CF, 0x8D3, 0x8D3, 0x8F3, 0x8F3]

/-- Invisible signs that enclose the digits behind them. -/
def prependedConcatenationMark : List Nat :=
  [0x600, 0x605, 0x6DD, 0x6DD, 0x70F, 0x70F, 0x890, 0x891, 0x8E2, 0x8E2, 0x110BD, 0x110BD,
    0x110CD, 0x110CD]

end TokenConcord.Unicode
