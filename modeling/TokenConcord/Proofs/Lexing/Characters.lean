import TokenConcord.Lexing.Lexeme

/-!
# Characters of lexemes

Which ASCII characters words are made of, and at which characters no text literal, quoted
identifier or comment can open.
-/

namespace TokenConcord.Lexing

/-! ## Tests -/

section Tests

variable (test : Char → Prop) [DecidablePred test]

-- Without these a test of listed characters can be decided by trying all characters there are.
instance (priority := 2000) decidableForallMemText (text : Text) :
    Decidable (∀ c ∈ text, test c) :=
  List.decidableBAll test text

instance (priority := 2000) decidableForallMemFound (found : Option Char) :
    Decidable (∀ c ∈ found, test c) :=
  Option.decidableForallMem found

end Tests

/-! ## ASCII characters -/

/-- The ASCII letters, digits and the underscore. -/
def isAsciiPart (c : Char) : Bool := c.isAlphanum || c == '_'

/-- The ASCII letters and the underscore. -/
def isAsciiStart (c : Char) : Bool := c.isAlpha || c == '_'

theorem forall_ascii {P : Char → Prop} (h : ∀ n < 128, P (Char.ofNat n)) {c : Char}
    (hc : c.toNat < 128) : P c := by
  rw [← Char.ofNat_toNat c]
  exact h c.toNat hc

theorem isIdentifierStart_ascii {c : Char} (hc : c.toNat < 128) :
    isIdentifierStart c = isAsciiStart c := by
  refine forall_ascii (P := fun c => isIdentifierStart c = isAsciiStart c) ?_ hc
  decide

theorem isIdentifierPart_ascii {c : Char} (hc : c.toNat < 128) :
    isIdentifierPart c = isAsciiPart c := by
  refine forall_ascii (P := fun c => isIdentifierPart c = isAsciiPart c) ?_ hc
  decide

theorem lt_of_isDigit {c : Char} (h : c.isDigit = true) : c.toNat < 128 := by
  simp only [Char.isDigit, Bool.and_eq_true, decide_eq_true_eq] at h
  have hle : c.toNat ≤ 57 := h.2
  omega

theorem isIdentifierStart_of_isDigit {c : Char} (h : c.isDigit = true) :
    isIdentifierStart c = false := by
  have hall : ∀ n < 128, (Char.ofNat n).isDigit = true → isAsciiStart (Char.ofNat n) = false := by
    decide
  have hascii := lt_of_isDigit h
  rw [isIdentifierStart_ascii hascii]
  exact @forall_ascii (fun c => c.isDigit = true → isAsciiStart c = false) hall c hascii h

/-! ## Quiet characters -/

/-- No construct opens at the character. -/
def Quiet (c : Char) : Prop := c ≠ '"' ∧ c ≠ '#' ∧ c ≠ '/'

instance : DecidablePred Quiet := fun _ => inferInstanceAs (Decidable (_ ∧ _))

theorem quiet_of_test {test : Char → Bool} (h : ∀ c ∈ ['"', '#', '/'], test c = false) {c : Char}
    (hc : test c = true) : Quiet c := by
  have hne : ∀ d ∈ ['"', '#', '/'], c ≠ d := by
    rintro d hmem rfl
    rw [h c hmem] at hc
    cases hc
  exact ⟨hne _ (by simp), hne _ (by simp), hne _ (by simp)⟩

theorem quiet_of_isIdentifierPart {c : Char} (h : isIdentifierPart c = true) : Quiet c :=
  quiet_of_test (by decide) h

theorem quiet_of_isIdentifierStart {c : Char} (h : isIdentifierStart c = true) : Quiet c :=
  quiet_of_test (by decide) h

theorem quiet_of_isDigit {c : Char} (h : c.isDigit = true) : Quiet c :=
  quiet_of_test (by decide) h

theorem quiet_of_isHexDigit {c : Char} (h : isHexDigit c = true) : Quiet c :=
  quiet_of_test (by decide) h

end TokenConcord.Lexing
