import TokenConcord.Proofs.Lexing.Lexemes

/-!
# Numbers

Digits with a fraction, an exponent or both, a fraction without digits in front of it, and
hexadecimal digits behind their mark. The reference lexer takes all of a number that is followed
by nothing that could go on with it.
-/

namespace TokenConcord.Lexing

variable {text digits rest : Text}

/-- One digit or more. -/
def AreDigits (text : Text) : Prop := text ≠ [] ∧ ∀ c ∈ text, c.isDigit = true

/-- A mark, a sign or none, and digits. -/
inductive IsExponent : Text → Prop
  | unsigned {mark : Char} {digits : Text} :
      mark = 'e' ∨ mark = 'E' → AreDigits digits → IsExponent (mark :: digits)
  | signed {mark sign : Char} {digits : Text} :
      mark = 'e' ∨ mark = 'E' → sign = '+' ∨ sign = '-' → AreDigits digits →
        IsExponent (mark :: sign :: digits)

/-- An exponent or nothing. -/
def MaybeExponent (text : Text) : Prop := text = [] ∨ IsExponent text

/-- Digits or a fraction or both, with an exponent or none. -/
inductive IsNumber : Text → Prop
  | whole {digits exponent : Text} :
      AreDigits digits → MaybeExponent exponent → IsNumber (digits ++ exponent)
  | fraction {whole digits exponent : Text} :
      whole = [] ∨ AreDigits whole → AreDigits digits → MaybeExponent exponent →
        IsNumber (whole ++ '.' :: (digits ++ exponent))

/-- Hexadecimal digits behind their mark. -/
inductive IsHexNumber : Text → Prop
  | digits {mark : Char} {digits : Text} :
      mark = 'x' ∨ mark = 'X' → digits ≠ [] → (∀ c ∈ digits, isHexDigit c = true) →
        IsHexNumber ('0' :: mark :: digits)

/-- The text does not go on with a character of some test. -/
def StopsAt (test : Char → Bool) (text : Text) : Prop :=
  ∀ c, text.head? = some c → test c = false

/-- Characters that could go on with a number. -/
def inNumber (c : Char) : Bool := isHexDigit c || c == '.' || c == 'x' || c == 'X'

theorem StopsAt.mono {test other : Char → Bool} (h : StopsAt test rest)
    (hother : ∀ c, other c = true → test c = true) : StopsAt other rest := by
  intro c hc
  cases hcase : other c with
  | false => rfl
  | true => rw [← h c hc, hother c hcase]

theorem StopsAt.cons {test : Char → Bool} {c : Char} (h : test c = false) (text : Text) :
    StopsAt test (c :: text) := by
  rintro d ⟨⟩
  exact h

theorem inNumber_of_isDigit (c : Char) (h : c.isDigit = true) : inNumber c = true := by
  simp [inNumber, isHexDigit, h]

theorem StopsAt.isDigit (h : StopsAt inNumber rest) : StopsAt Char.isDigit rest :=
  h.mono inNumber_of_isDigit

/-- All of the digits are counted. -/
theorem AreDigits.countWhile (h : AreDigits digits) (hrest : StopsAt Char.isDigit rest) :
    countWhile Char.isDigit (digits ++ rest) = digits.length := countWhile_append h.2 hrest

theorem AreDigits.length_ne_zero (h : AreDigits digits) : digits.length ≠ 0 :=
  fun hzero => h.1 (List.length_eq_zero_iff.mp hzero)

theorem AreDigits.head (h : AreDigits digits) {c : Char} (hc : (digits ++ rest).head? = some c) :
    c.isDigit = true := by
  obtain ⟨d, more, rfl⟩ := List.exists_cons_of_ne_nil h.1
  have hd : d = c := Option.some.inj hc
  rw [← hd]
  exact h.2 d List.mem_cons_self

theorem exponentLength_none (h : StopsAt inNumber rest) : exponentLength rest = 0 := by
  cases rest with
  | nil => rfl
  | cons c rest =>
      have hc := h c rfl
      have hmark : ¬ (c = 'e' ∨ c = 'E') := by
        rintro (rfl | rfl) <;> exact absurd hc (by decide)
      unfold exponentLength
      dsimp only
      rw [if_neg hmark]

theorem exponentLength_append (h : IsExponent text) (hrest : StopsAt Char.isDigit rest) :
    exponentLength (text ++ rest) = text.length := by
  cases h with
  | @unsigned mark digits hmark hdigits =>
      have hcount := hdigits.countWhile hrest
      obtain ⟨d, more, rfl⟩ := List.exists_cons_of_ne_nil hdigits.1
      have hsign : ¬ (d = '+' ∨ d = '-') := by
        have hd := hdigits.2 d List.mem_cons_self
        rintro (rfl | rfl) <;> exact absurd hd (by decide)
      rw [List.cons_append] at hcount
      unfold exponentLength
      simp only [List.cons_append, if_pos hmark, if_neg hsign, List.drop_zero, hcount,
        List.length_cons, if_neg (Nat.succ_ne_zero more.length)]
      omega
  | @signed mark sign digits hmark hsign hdigits =>
      unfold exponentLength
      simp only [List.cons_append, if_pos hmark, if_pos hsign, List.drop_one, List.tail_cons,
        hdigits.countWhile hrest, if_neg hdigits.length_ne_zero, List.length_cons]
      omega

theorem MaybeExponent.length (h : MaybeExponent text) (hrest : StopsAt inNumber rest) :
    exponentLength (text ++ rest) = text.length := by
  rcases h with rfl | h
  · exact exponentLength_none hrest
  · exact exponentLength_append h hrest.isDigit

theorem IsExponent.stops (h : IsExponent text) {test : Char → Bool}
    (htest : test 'e' = false ∧ test 'E' = false) (rest : Text) : StopsAt test (text ++ rest) := by
  have hmark : ∀ {mark : Char}, mark = 'e' ∨ mark = 'E' → test mark = false := by
    rintro mark (rfl | rfl)
    · exact htest.1
    · exact htest.2
  cases h with
  | unsigned hm _ => exact .cons (hmark hm) _
  | signed hm _ _ => exact .cons (hmark hm) _

/-- Digits do not go on with an exponent. -/
theorem MaybeExponent.stops (h : MaybeExponent text) {test : Char → Bool}
    (htest : test 'e' = false ∧ test 'E' = false) (hrest : StopsAt test rest) :
    StopsAt test (text ++ rest) := by
  rcases h with rfl | h
  · exact hrest
  · exact h.stops htest rest

theorem fractionLength_none (h : StopsAt (· == '.') text) : fractionLength text = 0 := by
  cases text with
  | nil => rfl
  | cons c text => rw [fractionLength, if_neg (by simpa using h c rfl)]

theorem fractionLength_append (h : AreDigits digits) (hrest : StopsAt Char.isDigit rest) :
    fractionLength ('.' :: (digits ++ rest)) = digits.length + 1 := by
  rw [fractionLength, if_pos rfl]
  dsimp only
  rw [h.countWhile hrest, if_neg h.length_ne_zero, Nat.add_comm]

theorem countWhile_whole (h : text = [] ∨ AreDigits text) (hrest : StopsAt Char.isDigit rest) :
    countWhile Char.isDigit (text ++ rest) = text.length := by
  rcases h with rfl | h
  · exact countWhile_append (fun c hmem => absurd hmem List.not_mem_nil) hrest
  · exact h.countWhile hrest

/-- The reference lexer takes all of a number. -/
theorem numberLength_append (h : IsNumber text) (hrest : StopsAt inNumber rest) :
    numberLength (text ++ rest) = text.length := by
  cases h with
  | @whole digits exponent hdigits hexponent =>
      have hdigit : StopsAt Char.isDigit (exponent ++ rest) :=
        hexponent.stops (by decide) hrest.isDigit
      have hpoint : StopsAt (· == '.') (exponent ++ rest) :=
        hexponent.stops (by decide) (hrest.mono fun c hc => by simp [inNumber, hc])
      unfold numberLength
      simp only [List.append_assoc, hdigits.countWhile hdigit, List.drop_left,
        fractionLength_none hpoint, Nat.add_zero, if_neg hdigits.length_ne_zero,
        hexponent.length hrest, List.length_append]
  | @fraction whole digits exponent hwhole hdigits hexponent =>
      have hdigit : StopsAt Char.isDigit (exponent ++ rest) :=
        hexponent.stops (by decide) hrest.isDigit
      have hcount := @countWhile_whole whole ('.' :: (digits ++ (exponent ++ rest))) hwhole
        (.cons (by decide) _)
      have hpart : whole.length + (digits.length + 1) ≠ 0 := by omega
      have hdrop : (whole ++ '.' :: (digits ++ (exponent ++ rest))).drop
          (whole.length + (digits.length + 1)) = exponent ++ rest := by
        rw [← List.drop_drop, List.drop_left, List.drop_succ_cons, List.drop_left]
      unfold numberLength
      simp only [List.append_assoc, List.cons_append, hcount, List.drop_left,
        fractionLength_append hdigits hdigit, if_neg hpart, hdrop, hexponent.length hrest,
        List.length_append, List.length_cons]
      omega

theorem hexLength_append (h : IsHexNumber text) (hrest : StopsAt inNumber rest) :
    hexLength (text ++ rest) = text.length := by
  cases h with
  | @digits mark digits hmark hne hdigits =>
      have hcount : countWhile isHexDigit (digits ++ rest) = digits.length :=
        countWhile_append hdigits (hrest.mono fun c hc => by simp [inNumber, hc])
      have hlength : digits.length ≠ 0 := fun hzero => hne (List.length_eq_zero_iff.mp hzero)
      unfold hexLength
      simp only [List.cons_append, if_pos hmark, hcount, if_neg hlength, List.length_cons]
      omega

/-! ## Numbers in any text -/

/-- Digits go on up to where something else stands. -/
theorem AreDigits.extend (h : AreDigits digits) (rest : Text) :
    ∃ more later, rest = more ++ later ∧ AreDigits (digits ++ more) ∧
      StopsAt Char.isDigit later := by
  induction rest generalizing digits with
  | nil => exact ⟨[], [], rfl, by rwa [List.append_nil], fun c hc => by cases hc⟩
  | cons c rest ih =>
      by_cases hc : c.isDigit = true
      · have hdigits : AreDigits (digits ++ [c]) := by
          refine ⟨by simp, fun d hmem => ?_⟩
          rcases List.mem_append.mp hmem with hmem | hmem
          · exact h.2 d hmem
          · rw [List.mem_singleton.mp hmem, hc]
        obtain ⟨more, later, rfl, hmore, hlater⟩ := ih hdigits
        rw [List.append_assoc, List.singleton_append] at hmore
        exact ⟨c :: more, later, rfl, hmore, hlater⟩
      · refine ⟨[], c :: rest, rfl, by rwa [List.append_nil], StopsAt.cons ?_ rest⟩
        exact Bool.eq_false_iff.mpr hc

theorem IsExponent.extend (h : IsExponent text) (rest : Text) :
    ∃ more later, rest = more ++ later ∧ IsExponent (text ++ more) ∧
      StopsAt Char.isDigit later := by
  cases h with
  | unsigned hmark hdigits =>
      obtain ⟨more, later, rfl, hmore, hlater⟩ := hdigits.extend rest
      exact ⟨more, later, rfl, .unsigned hmark hmore, hlater⟩
  | signed hmark hsign hdigits =>
      obtain ⟨more, later, rfl, hmore, hlater⟩ := hdigits.extend rest
      exact ⟨more, later, rfl, .signed hmark hsign hmore, hlater⟩

/-- A hexadecimal number starts with a zero. -/
theorem eq_zero_of_hexLength {c : Char} (h : hexLength (c :: text) ≠ 0) : c = '0' := by
  unfold hexLength at h
  split at h
  next heq => exact (List.cons.inj heq).1
  next => exact absurd rfl h

/-- A number starts with a digit, or with a point and a digit. -/
theorem start_of_numberLength {c : Char} (h : numberLength (c :: text) ≠ 0) :
    c.isDigit = true ∨ ∃ d more, c = '.' ∧ text = d :: more ∧ d.isDigit = true := by
  by_cases hc : c.isDigit = true
  · exact Or.inl hc
  · have hcount : countWhile Char.isDigit (c :: text) = 0 := by simp [countWhile, hc]
    have hfraction : fractionLength (c :: text) ≠ 0 := by
      intro hzero
      rw [numberLength, hcount, List.drop_zero, hzero] at h
      exact h rfl
    rw [fractionLength] at hfraction
    split at hfraction
    next hpoint =>
      cases text with
      | nil => exact absurd rfl hfraction
      | cons d more =>
          refine Or.inr ⟨d, more, hpoint, rfl, ?_⟩
          cases hd : d.isDigit with
          | true => rfl
          | false => exact absurd (by simp [countWhile, hd]) hfraction
    next => exact absurd rfl hfraction

/-! ## Numbers as lexemes -/

/-- Characters of numbers. -/
theorem IsNumber.mem (h : IsNumber text) {c : Char} (hc : c ∈ text) :
    c.isDigit = true ∨ c ∈ ['.', 'e', 'E', '+', '-'] := by
  have hexponent : ∀ {exponent : Text}, MaybeExponent exponent → c ∈ exponent →
      c.isDigit = true ∨ c ∈ ['.', 'e', 'E', '+', '-'] := by
    rintro exponent (rfl | hexponent) hmem
    · cases hmem
    · cases hexponent with
      | unsigned hmark hdigits =>
          rcases List.mem_cons.mp hmem with rfl | hmem
          · rcases hmark with rfl | rfl <;> simp
          · exact Or.inl (hdigits.2 c hmem)
      | signed hmark hsign hdigits =>
          rcases List.mem_cons.mp hmem with rfl | hmem
          · rcases hmark with rfl | rfl <;> simp
          · rcases List.mem_cons.mp hmem with rfl | hmem
            · rcases hsign with rfl | rfl <;> simp
            · exact Or.inl (hdigits.2 c hmem)
  cases h with
  | whole hdigits hmaybe =>
      rcases List.mem_append.mp hc with hc | hc
      · exact Or.inl (hdigits.2 c hc)
      · exact hexponent hmaybe hc
  | fraction hwhole hdigits hmaybe =>
      rcases List.mem_append.mp hc with hc | hc
      · rcases hwhole with rfl | hwhole
        · cases hc
        · exact Or.inl (hwhole.2 c hc)
      · rcases List.mem_cons.mp hc with rfl | hc
        · simp
        · rcases List.mem_append.mp hc with hc | hc
          · exact Or.inl (hdigits.2 c hc)
          · exact hexponent hmaybe hc

/-- A number starts with a digit or a point. -/
theorem IsNumber.head (h : IsNumber text) :
    ∃ c more, text = c :: more ∧ (c.isDigit = true ∨ c = '.') := by
  cases h with
  | whole hdigits _ =>
      obtain ⟨c, more, rfl⟩ := List.exists_cons_of_ne_nil hdigits.1
      exact ⟨c, _, rfl, Or.inl (hdigits.2 c List.mem_cons_self)⟩
  | fraction hwhole _ _ =>
      rcases hwhole with rfl | hwhole
      · exact ⟨'.', _, rfl, Or.inr rfl⟩
      · obtain ⟨c, more, rfl⟩ := List.exists_cons_of_ne_nil hwhole.1
        exact ⟨c, _, rfl, Or.inl (hwhole.2 c List.mem_cons_self)⟩

/-- A number that is not hexadecimal is not taken for one. -/
theorem IsNumber.hexLength (h : IsNumber text) (hrest : StopsAt inNumber rest) :
    hexLength (text ++ rest) = 0 := by
  have hmark : ∀ c ∈ text, ¬ (c = 'x' ∨ c = 'X') := by
    intro c hmem hc
    rcases h.mem hmem with hdigit | hother
    · rcases hc with rfl | rfl <;> exact absurd hdigit (by decide)
    · rcases hc with rfl | rfl <;> exact absurd hother (by decide)
  obtain ⟨c, more, rfl, _⟩ := h.head
  rw [List.cons_append]
  cases hmore : more ++ rest with
  | nil =>
      unfold Lexing.hexLength
      split
      next heq => cases heq
      next => rfl
  | cons d later =>
      have hd : ¬ (d = 'x' ∨ d = 'X') := by
        cases more with
        | nil =>
            rw [List.nil_append] at hmore
            have hstop := hrest d (by rw [hmore]; rfl)
            rintro (rfl | rfl) <;> exact absurd hstop (by decide)
        | cons d' more =>
            obtain ⟨rfl, _⟩ := List.cons.inj hmore
            exact hmark d' (by simp)
      unfold Lexing.hexLength
      split
      next heq =>
        cases heq
        rw [if_neg hd]
      next => rfl

theorem firstLexeme?_number (h : IsNumber text) (hrest : StopsAt inNumber rest) :
    firstLexeme? (text ++ rest) = some (.simple .numericLiteral, text.length) := by
  have hhex := h.hexLength hrest
  have hnumber := numberLength_append h hrest
  obtain ⟨c, more, rfl, hc⟩ := h.head
  have hquiet : Quiet c ∧ isIdentifierStart c = false := by
    rcases hc with hc | rfl
    · exact ⟨quiet_of_isDigit hc, isIdentifierStart_of_isDigit hc⟩
    · decide
  rw [List.cons_append] at hhex hnumber ⊢
  rw [firstLexeme?_plain (hquiet.1.not_opens _), hhex, hnumber, hquiet.2]
  rfl

theorem firstLexeme?_hexNumber (h : IsHexNumber text) (hrest : StopsAt inNumber rest) :
    firstLexeme? (text ++ rest) = some (.simple .hexLiteral, text.length) := by
  have hhex := hexLength_append h hrest
  cases h with
  | @digits mark digits hmark hne hdigits =>
      have hzero : Quiet '0' ∧ isIdentifierStart '0' = false := by decide
      rw [List.cons_append] at hhex ⊢
      rw [firstLexeme?_plain (hzero.1.not_opens _), hhex, hzero.2]
      rfl

end TokenConcord.Lexing
