/-!
# Delimiters

Characters that divide or enclose text. Runs of code points, ascending and disjoint, each written
as its first and its last code point.
-/

namespace TokenConcord.Unicode

set_option maxRecDepth 8192

/-- Dashes. -/
def dash : List Nat :=
  [0x2D, 0x2D, 0x58A, 0x58A, 0x5BE, 0x5BE, 0x1400, 0x1400, 0x1806, 0x1806, 0x2010, 0x2015,
    0x2053, 0x2053, 0x207B, 0x207B, 0x208B, 0x208B, 0x2212, 0x2212, 0x2E17, 0x2E17, 0x2E1A,
    0x2E1A, 0x2E3A, 0x2E3B, 0x2E40, 0x2E40, 0x2E5D, 0x2E5D, 0x301C, 0x301C, 0x3030, 0x3030,
    0x30A0, 0x30A0, 0xFE31, 0xFE32, 0xFE58, 0xFE58, 0xFE63, 0xFE63, 0xFF0D, 0xFF0D, 0x10D6E,
    0x10D6E, 0x10EAD, 0x10EAD]

/-- Hyphens and signs that join like one. -/
def hyphen : List Nat :=
  [0x2D, 0x2D, 0xAD, 0xAD, 0x58A, 0x58A, 0x1806, 0x1806, 0x2010, 0x2011, 0x2E17, 0x2E17, 0x30FB,
    0x30FB, 0xFE63, 0xFE63, 0xFF0D, 0xFF0D, 0xFF65, 0xFF65]

/-- Quotation marks. -/
def quotationMark : List Nat :=
  [0x22, 0x22, 0x27, 0x27, 0xAB, 0xAB, 0xBB, 0xBB, 0x2018, 0x201F, 0x2039, 0x203A, 0x2E42,
    0x2E42, 0x300C, 0x300F, 0x301D, 0x301F, 0xFE41, 0xFE44, 0xFF02, 0xFF02, 0xFF07, 0xFF07,
    0xFF62, 0xFF63]

/-- Punctuation that ends a part of a text. -/
def terminalPunctuation : List Nat :=
  [0x21, 0x21, 0x2C, 0x2C, 0x2E, 0x2E, 0x3A, 0x3B, 0x3F, 0x3F, 0x37E, 0x37E, 0x387, 0x387, 0x589,
    0x589, 0x5C3, 0x5C3, 0x60C, 0x60C, 0x61B, 0x61B, 0x61D, 0x61F, 0x6D4, 0x6D4, 0x700, 0x70A,
    0x70C, 0x70C, 0x7F8, 0x7F9, 0x830, 0x835, 0x837, 0x83E, 0x85E, 0x85E, 0x964, 0x965, 0xE5A,
    0xE5B, 0xF08, 0xF08, 0xF0D, 0xF12, 0x104A, 0x104B, 0x1361, 0x1368, 0x166E, 0x166E, 0x16EB,
    0x16ED, 0x1735, 0x1736, 0x17D4, 0x17D6, 0x17DA, 0x17DA, 0x1802, 0x1805, 0x1808, 0x1809,
    0x1944, 0x1945, 0x1AA8, 0x1AAB, 0x1B4E, 0x1B4F, 0x1B5A, 0x1B5B, 0x1B5D, 0x1B5F, 0x1B7D,
    0x1B7F, 0x1C3B, 0x1C3F, 0x1C7E, 0x1C7F, 0x2024, 0x2024, 0x203C, 0x203D, 0x2047, 0x2049,
    0x2CF9, 0x2CFB, 0x2E2E, 0x2E2E, 0x2E3C, 0x2E3C, 0x2E41, 0x2E41, 0x2E4C, 0x2E4C, 0x2E4E,
    0x2E4F, 0x2E53, 0x2E54, 0x3001, 0x3002, 0xA4FE, 0xA4FF, 0xA60D, 0xA60F, 0xA6F3, 0xA6F7,
    0xA876, 0xA877, 0xA8CE, 0xA8CF, 0xA92F, 0xA92F, 0xA9C7, 0xA9C9, 0xAA5D, 0xAA5F, 0xAADF,
    0xAADF, 0xAAF0, 0xAAF1, 0xABEB, 0xABEB, 0xFE12, 0xFE12, 0xFE15, 0xFE16, 0xFE50, 0xFE52,
    0xFE54, 0xFE57, 0xFF01, 0xFF01, 0xFF0C, 0xFF0C, 0xFF0E, 0xFF0E, 0xFF1A, 0xFF1B, 0xFF1F,
    0xFF1F, 0xFF61, 0xFF61, 0xFF64, 0xFF64, 0x1039F, 0x1039F, 0x103D0, 0x103D0, 0x10857, 0x10857,
    0x1091F, 0x1091F, 0x10A56, 0x10A57, 0x10AF0, 0x10AF5, 0x10B3A, 0x10B3F, 0x10B99, 0x10B9C,
    0x10F55, 0x10F59, 0x10F86, 0x10F89, 0x11047, 0x1104D, 0x110BE, 0x110C1, 0x11141, 0x11143,
    0x111C5, 0x111C6, 0x111CD, 0x111CD, 0x111DE, 0x111DF, 0x11238, 0x1123C, 0x112A9, 0x112A9,
    0x113D4, 0x113D5, 0x1144B, 0x1144D, 0x1145A, 0x1145B, 0x115C2, 0x115C5, 0x115C9, 0x115D7,
    0x11641, 0x11642, 0x1173C, 0x1173E, 0x11944, 0x11944, 0x11946, 0x11946, 0x11A42, 0x11A43,
    0x11A9B, 0x11A9C, 0x11AA1, 0x11AA2, 0x11C41, 0x11C43, 0x11C71, 0x11C71, 0x11EF7, 0x11EF8,
    0x11F43, 0x11F44, 0x12470, 0x12474, 0x16A6E, 0x16A6F, 0x16AF5, 0x16AF5, 0x16B37, 0x16B39,
    0x16B44, 0x16B44, 0x16D6E, 0x16D6F, 0x16E97, 0x16E98, 0x1BC9F, 0x1BC9F, 0x1DA87, 0x1DA8A]

/-- Punctuation that ends a sentence. -/
def sentenceTerminal : List Nat :=
  [0x21, 0x21, 0x2E, 0x2E, 0x3F, 0x3F, 0x589, 0x589, 0x61D, 0x61F, 0x6D4, 0x6D4, 0x700, 0x702,
    0x7F9, 0x7F9, 0x837, 0x837, 0x839, 0x839, 0x83D, 0x83E, 0x964, 0x965, 0x104A, 0x104B, 0x1362,
    0x1362, 0x1367, 0x1368, 0x166E, 0x166E, 0x1735, 0x1736, 0x17D4, 0x17D5, 0x1803, 0x1803,
    0x1809, 0x1809, 0x1944, 0x1945, 0x1AA8, 0x1AAB, 0x1B4E, 0x1B4F, 0x1B5A, 0x1B5B, 0x1B5E,
    0x1B5F, 0x1B7D, 0x1B7F, 0x1C3B, 0x1C3C, 0x1C7E, 0x1C7F, 0x2024, 0x2024, 0x203C, 0x203D,
    0x2047, 0x2049, 0x2CF9, 0x2CFB, 0x2E2E, 0x2E2E, 0x2E3C, 0x2E3C, 0x2E53, 0x2E54, 0x3002,
    0x3002, 0xA4FF, 0xA4FF, 0xA60E, 0xA60F, 0xA6F3, 0xA6F3, 0xA6F7, 0xA6F7, 0xA876, 0xA877,
    0xA8CE, 0xA8CF, 0xA92F, 0xA92F, 0xA9C8, 0xA9C9, 0xAA5D, 0xAA5F, 0xAAF0, 0xAAF1, 0xABEB,
    0xABEB, 0xFE12, 0xFE12, 0xFE15, 0xFE16, 0xFE52, 0xFE52, 0xFE56, 0xFE57, 0xFF01, 0xFF01,
    0xFF0E, 0xFF0E, 0xFF1F, 0xFF1F, 0xFF61, 0xFF61, 0x10A56, 0x10A57, 0x10F55, 0x10F59, 0x10F86,
    0x10F89, 0x11047, 0x11048, 0x110BE, 0x110C1, 0x11141, 0x11143, 0x111C5, 0x111C6, 0x111CD,
    0x111CD, 0x111DE, 0x111DF, 0x11238, 0x11239, 0x1123B, 0x1123C, 0x112A9, 0x112A9, 0x113D4,
    0x113D5, 0x1144B, 0x1144C, 0x115C2, 0x115C3, 0x115C9, 0x115D7, 0x11641, 0x11642, 0x1173C,
    0x1173E, 0x11944, 0x11944, 0x11946, 0x11946, 0x11A42, 0x11A43, 0x11A9B, 0x11A9C, 0x11C41,
    0x11C42, 0x11EF7, 0x11EF8, 0x11F43, 0x11F44, 0x16A6E, 0x16A6F, 0x16AF5, 0x16AF5, 0x16B37,
    0x16B38, 0x16B44, 0x16B44, 0x16D6E, 0x16D6F, 0x16E98, 0x16E98, 0x1BC9F, 0x1BC9F, 0x1DA88,
    0x1DA88]

/-- Characters shown mirrored in text that runs from right to left. -/
def bidiMirrored : List Nat :=
  [0x28, 0x29, 0x3C, 0x3C, 0x3E, 0x3E, 0x5B, 0x5B, 0x5D, 0x5D, 0x7B, 0x7B, 0x7D, 0x7D, 0xAB,
    0xAB, 0xBB, 0xBB, 0xF3A, 0xF3D, 0x169B, 0x169C, 0x2039, 0x203A, 0x2045, 0x2046, 0x207D,
    0x207E, 0x208D, 0x208E, 0x2140, 0x2140, 0x2201, 0x2204, 0x2208, 0x220D, 0x2211, 0x2211,
    0x2215, 0x2216, 0x221A, 0x221D, 0x221F, 0x2222, 0x2224, 0x2224, 0x2226, 0x2226, 0x222B,
    0x2233, 0x2239, 0x2239, 0x223B, 0x224C, 0x2252, 0x2255, 0x225F, 0x2260, 0x2262, 0x2262,
    0x2264, 0x226B, 0x226D, 0x228C, 0x228F, 0x2292, 0x2298, 0x2298, 0x22A2, 0x22A3, 0x22A6,
    0x22B8, 0x22BE, 0x22BF, 0x22C9, 0x22CD, 0x22D0, 0x22D1, 0x22D6, 0x22ED, 0x22F0, 0x22FF,
    0x2308, 0x230B, 0x2320, 0x2321, 0x2329, 0x232A, 0x2768, 0x2775, 0x27C0, 0x27C0, 0x27C3,
    0x27C6, 0x27C8, 0x27C9, 0x27CB, 0x27CD, 0x27D3, 0x27D6, 0x27DC, 0x27DE, 0x27E2, 0x27EF,
    0x2983, 0x2998, 0x299B, 0x29A0, 0x29A2, 0x29AF, 0x29B8, 0x29B8, 0x29C0, 0x29C5, 0x29C9,
    0x29C9, 0x29CE, 0x29D2, 0x29D4, 0x29D5, 0x29D8, 0x29DC, 0x29E1, 0x29E1, 0x29E3, 0x29E5,
    0x29E8, 0x29E9, 0x29F4, 0x29F9, 0x29FC, 0x29FD, 0x2A0A, 0x2A1C, 0x2A1E, 0x2A21, 0x2A24,
    0x2A24, 0x2A26, 0x2A26, 0x2A29, 0x2A29, 0x2A2B, 0x2A2E, 0x2A34, 0x2A35, 0x2A3C, 0x2A3E,
    0x2A57, 0x2A58, 0x2A64, 0x2A65, 0x2A6A, 0x2A6D, 0x2A6F, 0x2A70, 0x2A73, 0x2A74, 0x2A79,
    0x2AA3, 0x2AA6, 0x2AAD, 0x2AAF, 0x2AD6, 0x2ADC, 0x2ADC, 0x2ADE, 0x2ADE, 0x2AE2, 0x2AE6,
    0x2AEC, 0x2AEE, 0x2AF3, 0x2AF3, 0x2AF7, 0x2AFB, 0x2AFD, 0x2AFD, 0x2BFE, 0x2BFE, 0x2E02,
    0x2E05, 0x2E09, 0x2E0A, 0x2E0C, 0x2E0D, 0x2E1C, 0x2E1D, 0x2E20, 0x2E29, 0x2E55, 0x2E5C,
    0x3008, 0x3011, 0x3014, 0x301B, 0xFE59, 0xFE5E, 0xFE64, 0xFE65, 0xFF08, 0xFF09, 0xFF1C,
    0xFF1C, 0xFF1E, 0xFF1E, 0xFF3B, 0xFF3B, 0xFF3D, 0xFF3D, 0xFF5B, 0xFF5B, 0xFF5D, 0xFF5D,
    0xFF5F, 0xFF60, 0xFF62, 0xFF63, 0x1D6DB, 0x1D6DB, 0x1D715, 0x1D715, 0x1D74F, 0x1D74F,
    0x1D789, 0x1D789, 0x1D7C3, 0x1D7C3]

/-- Invisible controls of the direction of text. -/
def bidiControl : List Nat :=
  [0x61C, 0x61C, 0x200E, 0x200F, 0x202A, 0x202E, 0x2066, 0x2069]

end TokenConcord.Unicode
