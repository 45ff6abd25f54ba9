/-!
# Exceptions of case

Characters whose upper case, title case or folded form cannot be told from simple case folding.
Runs of code points, ascending and disjoint, each written as its first and its last code point.
-/

namespace TokenConcord.Unicode

set_option maxRecDepth 8192

/-- Characters with an upper case that are no folded form of another character. -/
def alsoUppercased : List Nat :=
  [0xB5, 0xB5, 0x131, 0x131, 0x149, 0x149, 0x17F, 0x17F, 0x1C5, 0x1C5, 0x1C8, 0x1C8, 0x1CB,
    0x1CB, 0x1F0, 0x1F0, 0x1F2, 0x1F2, 0x345, 0x345, 0x3C2, 0x3C2, 0x3D0, 0x3D1, 0x3D5, 0x3D6,
    0x3F0, 0x3F1, 0x3F5, 0x3F5, 0x587, 0x587, 0x13F8, 0x13FD, 0x1C80, 0x1C88, 0x1E96, 0x1E9B,
    0x1F50, 0x1F50, 0x1F52, 0x1F52, 0x1F54, 0x1F54, 0x1F56, 0x1F56, 0x1F88, 0x1F8F, 0x1F98,
    0x1F9F, 0x1FA8, 0x1FAF, 0x1FB2, 0x1FB2, 0x1FB4, 0x1FB4, 0x1FB6, 0x1FB7, 0x1FBC, 0x1FBC,
    0x1FBE, 0x1FBE, 0x1FC2, 0x1FC2, 0x1FC4, 0x1FC4, 0x1FC6, 0x1FC7, 0x1FCC, 0x1FCC, 0x1FD2,
    0x1FD3, 0x1FD6, 0x1FD7, 0x1FE2, 0x1FE4, 0x1FE6, 0x1FE7, 0x1FF2, 0x1FF2, 0x1FF4, 0x1FF4,
    0x1FF6, 0x1FF7, 0x1FFC, 0x1FFC, 0xAB70, 0xABBF, 0xFB00, 0xFB05, 0xFB13, 0xFB17]

/-- Capitals that other letters fold to. -/
def foldedUppercase : List Nat :=
  [0x13A0, 0x13F5]

/-- Capital digraphs whose title case differs. -/
def alsoTitlecased : List Nat :=
  [0x1C4, 0x1C4, 0x1C7, 0x1C7, 0x1CA, 0x1CA, 0x1F1, 0x1F1]

/-- Characters with an upper case that stay as they are in title case. -/
def notTitlecased : List Nat :=
  [0x1C5, 0x1C5, 0x1C8, 0x1C8, 0x1CB, 0x1CB, 0x1F2, 0x1F2, 0x10D0, 0x10FA, 0x10FD, 0x10FF,
    0x1F88, 0x1F8F, 0x1F98, 0x1F9F, 0x1FA8, 0x1FAF, 0x1FBC, 0x1FBC, 0x1FCC, 0x1FCC, 0x1FFC,
    0x1FFC]

/-- Characters that fold to several characters only. -/
def alsoFolded : List Nat :=
  [0xDF, 0xDF, 0x130, 0x130, 0x149, 0x149, 0x587, 0x587, 0x1E9A, 0x1E9A, 0x1F80, 0x1F87, 0x1F90,
    0x1F97, 0x1FA0, 0x1FA7, 0x1FB2, 0x1FB4, 0x1FB7, 0x1FB7, 0x1FC2, 0x1FC4, 0x1FC7, 0x1FC7,
    0x1FF2, 0x1FF4, 0x1FF7, 0x1FF7, 0xFB00, 0xFB04, 0xFB06, 0xFB06, 0xFB13, 0xFB17]

/-- Characters that fold like another one they are equivalent to. -/
def foldedApart : List Nat :=
  [0x1FBE, 0x1FBE, 0x1FD3, 0x1FD3, 0x1FE3, 0x1FE3]

end TokenConcord.Unicode
