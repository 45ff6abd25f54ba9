import TokenConcord.Proofs.Lexing.Constructs
import TokenConcord.Proofs.Lexing.Words

/-!
# The rules of the lexer

Each rule matches some words: fixed lexemes, reserved words, names, two kinds of numbers, line
comments, and the openers of constructs. How far the reference lexer scans a name or a number is
the length of the longest such word that the text starts with.
-/

namespace TokenConcord.Lexing

variable {text word digits more rest : Text} {c d : Char}

/-! ## Classes of characters -/

theorem isIdentifierStart_iff : isIdentifierStart c = true ↔ c = '_' ∨ Unicode.isLetter c = true := by
  simp [isIdentifierStart]

theorem isIdentifierPart_iff : isIdentifierPart c = true ↔
    c = '_' ∨ Unicode.isLetter c = true ∨ Unicode.isDecimalDigit c = true := by
  simp [isIdentifierPart, or_assoc]

theorem isHexDigit_iff : isHexDigit c = true ↔
    c.isDigit = true ∨ 'a' ≤ c ∧ c ≤ 'f' ∨ 'A' ≤ c ∧ c ≤ 'F' := by
  simp [isHexDigit, or_assoc]

/-! ## Names -/

/-- Letters, digits and underscores of any script behind a letter or an underscore, and such
segments joined by single points. -/
inductive IsName : Text → Prop
  | segment {c : Char} {parts : Text} :
      c = '_' ∨ Unicode.isLetter c = true →
      (∀ d ∈ parts, d = '_' ∨ Unicode.isLetter d = true ∨ Unicode.isDecimalDigit d = true) →
        IsName (c :: parts)
  | join {name more : Text} : IsName name → IsName more → IsName (name ++ '.' :: more)

namespace IsName

theorem exists_cons (h : IsName word) :
    ∃ c more, word = c :: more ∧ isIdentifierStart c = true := by
  induction h with
  | segment hc _ => exact ⟨_, _, rfl, isIdentifierStart_iff.mpr hc⟩
  | join _ _ ih _ =>
      obtain ⟨c, more, rfl, hc⟩ := ih
      exact ⟨c, _, rfl, hc⟩

theorem concat (h : IsName word) (hd : isIdentifierPart d = true) : IsName (word ++ [d]) := by
  induction h with
  | segment hc hparts =>
      refine .segment hc fun e hmem => ?_
      rcases List.mem_append.mp hmem with hmem | hmem
      · exact hparts e hmem
      · rw [List.mem_singleton.mp hmem]
        exact isIdentifierPart_iff.mp hd
  | join hname _ _ ih =>
      rw [List.append_assoc, List.cons_append]
      exact hname.join ih

/-- What is scanned behind a name goes on with it. -/
theorem append_take (h : IsName word) (rest : Text) :
    IsName (word ++ rest.take (identifierTail rest)) := by
  fun_induction identifierTail rest generalizing word with
  | case2 c rest hpart ih =>
      have hword := ih (h.concat hpart)
      rwa [List.append_assoc] at hword
  | case3 d more hstart hpoint ih =>
      have hsegment : IsName [d] :=
        .segment (isIdentifierStart_iff.mp hstart) fun e hmem => absurd hmem List.not_mem_nil
      have hword := ih (h.join hsegment)
      rwa [List.append_assoc] at hword
  | _ => rwa [List.take_zero, List.append_nil]

/-- All of a name is scanned. -/
theorem identifierTail_append (h : IsName (c :: more)) (rest : Text) :
    identifierTail (more ++ rest) = more.length + identifierTail rest := by
  generalize hword : c :: more = word at h
  induction h generalizing c more rest with
  | segment _ hparts =>
      obtain ⟨-, rfl⟩ := List.cons.inj hword
      exact identifierTail_all (fun d hd => isIdentifierPart_iff.mpr (hparts d hd)) rest
  | join hname hlater ihname ihlater =>
      obtain ⟨e, front, rfl, -⟩ := hname.exists_cons
      obtain ⟨f, behind, rfl, hf⟩ := hlater.exists_cons
      have hpoint : isIdentifierPart '.' = false := by decide
      rw [List.cons_append, List.cons.injEq] at hword
      obtain ⟨-, rfl⟩ := hword
      rw [List.append_assoc, ihname _ rfl, List.cons_append, List.cons_append, identifierTail.eq_def]
      dsimp only
      rw [hpoint, if_neg Bool.false_ne_true, if_pos rfl, if_pos hf, ihlater _ rfl]
      simp only [List.length_append, List.length_cons]
      omega

/-- No name at the start of a text is longer than what is scanned. -/
theorem length_le (h : IsName word) (hbegins : word <+: c :: text) :
    isIdentifierStart c = true ∧ word.length ≤ 1 + identifierTail text := by
  obtain ⟨e, more, rfl, he⟩ := h.exists_cons
  obtain ⟨rest, hrest⟩ := hbegins
  rw [List.cons_append, List.cons.injEq] at hrest
  obtain ⟨rfl, rfl⟩ := hrest
  rw [h.identifierTail_append, List.length_cons]
  exact ⟨he, by omega⟩

end IsName

/-! ## Numbers -/

theorem exists_countWhile (test : Char → Bool) (text : Text) :
    ∃ word rest, text = word ++ rest ∧ (∀ c ∈ word, test c = true) ∧
      countWhile test text = word.length :=
  ⟨text.takeWhile test, text.dropWhile test, List.takeWhile_append_dropWhile.symm,
    List.all_eq_true.mp List.all_takeWhile, rfl⟩

theorem exists_digits (h : countWhile Char.isDigit text ≠ 0) :
    ∃ digits rest, text = digits ++ rest ∧ AreDigits digits ∧
      countWhile Char.isDigit text = digits.length := by
  obtain ⟨digits, rest, htext, hdigits, hcount⟩ := exists_countWhile Char.isDigit text
  refine ⟨digits, rest, htext, ⟨?_, hdigits⟩, hcount⟩
  rintro rfl
  exact h hcount

theorem exists_exponent (text : Text) :
    ∃ exponent rest, text = exponent ++ rest ∧ MaybeExponent exponent ∧
      exponentLength text = exponent.length := by
  by_cases hzero : exponentLength text = 0
  · exact ⟨[], text, rfl, Or.inl rfl, hzero⟩
  · match text with
    | [] => exact absurd rfl hzero
    | [mark] => exact absurd (by simp [exponentLength, countWhile]) hzero
    | mark :: c :: text =>
        have hmark : mark = 'e' ∨ mark = 'E' := by
          by_contra hother
          exact hzero (by simp only [exponentLength, if_neg hother])
        by_cases hsign : c = '+' ∨ c = '-'
        · simp only [exponentLength, if_pos hmark, if_pos hsign, List.drop_one, List.tail_cons]
            at hzero ⊢
          have hcount : countWhile Char.isDigit text ≠ 0 := fun h => hzero (if_pos h)
          obtain ⟨digits, rest, rfl, hdigits, hlength⟩ := exists_digits hcount
          refine ⟨mark :: c :: digits, rest, rfl, Or.inr (.signed hmark hsign hdigits), ?_⟩
          rw [if_neg hcount, hlength, List.length_cons, List.length_cons]
          omega
        · simp only [exponentLength, if_pos hmark, if_neg hsign, List.drop_zero] at hzero ⊢
          have hcount : countWhile Char.isDigit (c :: text) ≠ 0 := fun h => hzero (if_pos h)
          obtain ⟨digits, rest, htext, hdigits, hlength⟩ := exists_digits hcount
          refine ⟨mark :: digits, rest, by rw [htext]; rfl, Or.inr (.unsigned hmark hdigits), ?_⟩
          rw [if_neg hcount, hlength, List.length_cons]
          omega

/-- A fraction behind the digits of a number. -/
theorem exists_fraction (h : fractionLength text ≠ 0) :
    ∃ digits rest, text = '.' :: (digits ++ rest) ∧ AreDigits digits ∧
      fractionLength text = digits.length + 1 := by
  cases text with
  | nil => exact absurd rfl h
  | cons c text =>
      rw [fractionLength] at h ⊢
      split at h
      next hpoint =>
        dsimp only at h
        split at h
        next => exact absurd rfl h
        next hcount =>
          obtain ⟨digits, rest, htext, hdigits, hlength⟩ := exists_digits hcount
          refine ⟨digits, rest, by rw [hpoint, htext], hdigits, ?_⟩
          rw [if_pos hpoint]
          dsimp only
          rw [if_neg hcount, hlength, Nat.add_comm]
      next => exact absurd rfl h

/-- A number that is scanned is one. -/
theorem exists_number (h : numberLength text ≠ 0) :
    ∃ word rest, text = word ++ rest ∧ IsNumber word ∧ numberLength text = word.length := by
  obtain ⟨whole, behind, rfl, hwhole, hcount⟩ := exists_countWhile Char.isDigit text
  have hdigits : whole = [] ∨ AreDigits whole := by
    rcases eq_or_ne whole [] with hnil | hne
    · exact Or.inl hnil
    · exact Or.inr ⟨hne, hwhole⟩
  unfold numberLength at h ⊢
  dsimp only at h ⊢
  rw [hcount, List.drop_left] at h ⊢
  have hpart : whole.length + fractionLength behind ≠ 0 := fun hzero => h (if_pos hzero)
  rw [if_neg hpart, ← List.drop_drop, List.drop_left]
  by_cases hfraction : fractionLength behind = 0
  · rw [hfraction, List.drop_zero, Nat.add_zero]
    rw [hfraction, Nat.add_zero] at hpart
    obtain ⟨exponent, rest, rfl, hexponent, hlength⟩ := exists_exponent behind
    have hne : whole ≠ [] := fun hnil => hpart (List.length_eq_zero_iff.mpr hnil)
    refine ⟨whole ++ exponent, rest, by simp, .whole ⟨hne, hwhole⟩ hexponent, ?_⟩
    rw [hlength, List.length_append]
  · obtain ⟨digits, later, rfl, hlater, hlength⟩ := exists_fraction hfraction
    rw [hlength, List.drop_succ_cons, List.drop_left]
    obtain ⟨exponent, rest, rfl, hexponent, hexponentLength⟩ := exists_exponent later
    refine ⟨whole ++ '.' :: (digits ++ exponent), rest, by simp,
      .fraction hdigits hlater hexponent, ?_⟩
    rw [hexponentLength]
    simp only [List.length_append, List.length_cons]
    omega

theorem exists_hexNumber (h : hexLength text ≠ 0) :
    ∃ word rest, text = word ++ rest ∧ IsHexNumber word ∧ hexLength text = word.length := by
  unfold hexLength at h ⊢
  split at h
  next mark text =>
    have hmark : mark = 'x' ∨ mark = 'X' := by
      by_contra hother
      exact h (if_neg hother)
    rw [if_pos hmark] at h ⊢
    dsimp only at h ⊢
    have hcount : countWhile isHexDigit text ≠ 0 := fun hzero => h (if_pos hzero)
    obtain ⟨digits, rest, rfl, hdigits, hlength⟩ := exists_countWhile isHexDigit text
    have hne : digits ≠ [] := by
      rintro rfl
      exact hcount hlength
    refine ⟨'0' :: mark :: digits, rest, rfl, .digits hmark hne hdigits, ?_⟩
    rw [if_neg hcount, hlength, List.length_cons, List.length_cons]
    omega
  next => exact absurd rfl h

/-- No hexadecimal number at the start of a text is longer than what is scanned. -/
theorem IsHexNumber.length_le (h : IsHexNumber word) (hbegins : word <+: text) :
    word.length ≤ hexLength text := by
  obtain ⟨rest, rfl⟩ := hbegins
  cases h with
  | @digits mark digits hmark hne hdigits =>
      have hlength : digits.length + countWhile isHexDigit rest ≠ 0 := by
        have hpos := List.length_pos_iff.mpr hne
        omega
      unfold hexLength
      simp only [List.cons_append, if_pos hmark, countWhile_all hdigits, if_neg hlength,
        List.length_cons]
      omega

theorem IsExponent.length_le (h : IsExponent word) (rest : Text) :
    word.length ≤ exponentLength (word ++ rest) := by
  obtain ⟨more, later, rfl, hmore, hlater⟩ := h.extend rest
  rw [← List.append_assoc, exponentLength_append hmore hlater, List.length_append]
  omega

theorem AreDigits.length_le (h : AreDigits digits) (rest : Text) :
    digits.length + 1 ≤ fractionLength ('.' :: (digits ++ rest)) := by
  have hne := h.length_ne_zero
  rw [fractionLength, if_pos rfl]
  dsimp only
  rw [countWhile_all h.2, if_neg (by omega)]
  omega

/-- No number at the start of a text is longer than what is scanned. -/
theorem IsNumber.length_le (h : IsNumber word) (hbegins : word <+: text) :
    word.length ≤ numberLength text := by
  obtain ⟨rest, rfl⟩ := hbegins
  cases h with
  | @whole digits exponent hdigits hexponent =>
      have hne := hdigits.length_ne_zero
      rcases hexponent with rfl | hexponent
      · unfold numberLength
        dsimp only
        rw [List.append_nil, countWhile_all hdigits.2]
        split <;> omega
      · have hdigit : StopsAt Char.isDigit (exponent ++ rest) := hexponent.stops (by decide) rest
        have hpoint : StopsAt (· == '.') (exponent ++ rest) := hexponent.stops (by decide) rest
        have hle := hexponent.length_le rest
        unfold numberLength
        simp only [List.append_assoc, hdigits.countWhile hdigit, List.drop_left,
          fractionLength_none hpoint, Nat.add_zero, if_neg hne, List.length_append]
        omega
  | @fraction whole digits exponent hwhole hdigits hexponent =>
      have hcount (behind : Text) := @countWhile_whole whole ('.' :: behind) hwhole
        (.cons (by decide) _)
      rcases hexponent with rfl | hexponent
      · have hle := hdigits.length_le rest
        unfold numberLength
        simp only [List.append_nil, List.append_assoc, List.cons_append, hcount, List.drop_left,
          List.length_append, List.length_cons]
        split <;> omega
      · have hdigit : StopsAt Char.isDigit (exponent ++ rest) := hexponent.stops (by decide) rest
        have hle := hexponent.length_le rest
        have hpart : whole.length + (digits.length + 1) ≠ 0 := by omega
        unfold numberLength
        simp only [List.append_assoc, List.cons_append, hcount, List.drop_left,
          fractionLength_append hdigits hdigit, if_neg hpart, ← List.drop_drop,
          List.drop_succ_cons, List.length_append, List.length_cons]
        omega

/-- Where nothing is scanned there is no number. -/
theorem IsNumber.not_begins (h : IsNumber word) (hscan : numberLength text = 0) :
    ¬ word <+: text := by
  intro hbegins
  have hle := h.length_le hbegins
  obtain ⟨c, more, rfl, -⟩ := h.head
  rw [hscan] at hle
  cases hle

theorem IsHexNumber.not_begins (h : IsHexNumber word) (hscan : hexLength text = 0) :
    ¬ word <+: text := by
  intro hbegins
  have hle := h.length_le hbegins
  rw [hscan] at hle
  cases h
  cases hle

/-! ## Fixed lexemes -/

/-- The fixed lexeme that is found is the longest one at the start of the text. -/
theorem fixedLexeme?_longest {lexeme : Lexeme} {length : Nat}
    (h : fixedLexeme? text = some (lexeme, length)) :
    ∃ word kind rest, (word, kind) ∈ fixedLexemes ∧ text = word.toList ++ rest ∧
      lexeme = .simple kind ∧ length = word.toList.length ∧
      ∀ entry ∈ fixedLexemes, entry.1.toList <+: text → entry.1.toList.length ≤ length := by
  obtain ⟨⟨word, kind⟩, hfind, heq⟩ := Option.map_eq_some_iff.mp h
  cases heq
  obtain ⟨hbegins, before, behind, hsplit, hbefore⟩ := List.find?_eq_some_iff_append.mp hfind
  have hword := List.isPrefixOf_iff_prefix.mp hbegins
  obtain ⟨rest, hrest⟩ := hword
  refine ⟨word, kind, rest, List.mem_of_find?_eq_some hfind, hrest.symm, rfl, rfl, ?_⟩
  intro entry hmem hentry
  by_contra hlonger
  -- What is found in the longer word itself is found in the text as well.
  have hinner : word.toList <+: entry.1.toList :=
    List.prefix_of_prefix_length_le ⟨rest, hrest⟩ hentry (by omega)
  have hsame : fixedLexemes.find? (·.1.toList.isPrefixOf entry.1.toList) = some (word, kind) := by
    refine List.find?_eq_some_iff_append.mpr ⟨List.isPrefixOf_iff_prefix.mpr hinner, before, behind,
      hsplit, fun other hother => ?_⟩
    rw [Bool.not_eq_true', Bool.eq_false_iff]
    intro hin
    have htext := (List.isPrefixOf_iff_prefix.mp hin).trans hentry
    have hnot := hbefore other hother
    rw [List.isPrefixOf_iff_prefix.mpr htext] at hnot
    cases hnot
  rw [(fixedLexemes_spec _ hmem).1] at hsame
  cases hsame
  exact hlonger (Nat.le_refl _)

theorem fixedLexeme?_eq_none (h : fixedLexeme? text = none) :
    ∀ entry ∈ fixedLexemes, ¬ entry.1.toList <+: text := by
  intro entry hmem hentry
  have hnone := List.find?_eq_none.mp (Option.map_eq_none_iff.mp h) entry hmem
  exact hnone (List.isPrefixOf_iff_prefix.mpr hentry)

/-- Fixed lexemes of the same letters are the same, and so are reserved words. -/
theorem fixedLexemes_inj {word : String} {kind kind' : Kind} (h : (word, kind) ∈ fixedLexemes)
    (h' : (word, kind') ∈ fixedLexemes) : kind = kind' := by
  have hfind := (fixedLexemes_spec _ h).1
  rw [(fixedLexemes_spec _ h').1] at hfind
  exact (congrArg Prod.snd (Option.some.inj hfind)).symm

theorem reservedWords_inj {word : String} {kind kind' : Kind} (h : (word, kind) ∈ reservedWords)
    (h' : (word, kind') ∈ reservedWords) : kind = kind' := by
  have hfind := (reservedWords_spec _ h).2.2
  rw [(reservedWords_spec _ h').2.2] at hfind
  exact (congrArg Prod.snd (Option.some.inj hfind)).symm

/-! ## Rules -/

/-- What the lexer looks for. -/
inductive Rule where
  | fixed (kind : Kind)
  | reserved (kind : Kind)
  | identifier | number | hexNumber | lineComment
  | opener (construct : Construct)
  deriving DecidableEq, Repr

namespace Rule

/-- The words of a rule. -/
inductive Matches : Rule → Text → Prop
  | fixed {word : String} {kind : Kind} :
      (word, kind) ∈ fixedLexemes → Matches (.fixed kind) word.toList
  | reserved {word : String} {kind : Kind} :
      (word, kind) ∈ reservedWords → Matches (.reserved kind) word.toList
  | identifier {word : Text} : IsName word → Matches .identifier word
  | number {word : Text} : IsNumber word → Matches .number word
  | hexNumber {mark : Char} {digits : Text} :
      mark = 'x' ∨ mark = 'X' → digits ≠ [] →
      (∀ d ∈ digits, d.isDigit = true ∨ 'a' ≤ d ∧ d ≤ 'f' ∨ 'A' ≤ d ∧ d ≤ 'F') →
        Matches .hexNumber ('0' :: mark :: digits)
  | lineComment {content : Text} :
      '\n' ∉ content → Matches .lineComment ('/' :: '/' :: content)
  | opener (construct : Construct) : Matches (.opener construct) construct.opener

/-- Kind of the lexemes of a rule. A construct has several, by how it closes. -/
def kind? : Rule → Option Kind
  | fixed kind | reserved kind => some kind
  | identifier => some .identifier
  | number => some .numericLiteral
  | hexNumber => some .hexLiteral
  | lineComment => some .lineComment
  | opener _ => none

end Rule

theorem isName_of_reserved {word : String} {kind : Kind} (h : (word, kind) ∈ reservedWords) :
    IsName word.toList := by
  obtain ⟨hsegment, -, -⟩ := reservedWords_spec _ h
  obtain ⟨c, parts, hword, hc, hparts⟩ := hsegment.exists_cons
  rw [hword]
  exact .segment (isIdentifierStart_iff.mp (isIdentifierStart_of_isAsciiStart hc))
    fun d hd => isIdentifierPart_iff.mp (isIdentifierPart_of_isAsciiPart (hparts d hd))

/-- A fixed lexeme starts no word and no number. -/
theorem head_of_fixed {word : String} {kind : Kind} (h : (word, kind) ∈ fixedLexemes) :
    ∃ c more, word.toList = c :: more ∧ isIdentifierStart c = false ∧ c.isDigit = false ∧
      (c = '.' → ∃ d ∈ more.head?, d.isDigit = false) := by
  obtain ⟨-, hstarts, -⟩ := fixedLexemes_spec _ h
  dsimp only at hstarts
  generalize word.toList = letters at hstarts
  match letters with
  | [] => cases hstarts
  | [c] =>
      simp only [startsOperator, Bool.and_eq_true, Bool.not_eq_true', bne_iff_ne] at hstarts
      obtain ⟨⟨hstart, hdigit⟩, hpoint⟩ := hstarts
      exact ⟨c, [], rfl, hstart, hdigit, fun heq => absurd heq hpoint⟩
  | c :: d :: more =>
      simp only [startsOperator, Bool.and_eq_true, Bool.not_eq_true', Bool.or_eq_true,
        bne_iff_ne] at hstarts
      obtain ⟨⟨hstart, hdigit⟩, hpoint⟩ := hstarts
      exact ⟨c, d :: more, rfl, hstart, hdigit, fun heq => ⟨d, rfl, hpoint.resolve_left (· heq)⟩⟩

theorem Opens.mono {text : Text} (h : Opens word) (hbegins : word <+: text) : Opens text := by
  obtain ⟨opener, hmem, hopener⟩ := h
  exact ⟨opener, hmem, hopener.trans hbegins⟩

theorem Construct.opens_opener (construct : Construct) : Opens construct.opener := by
  cases construct <;> decide

namespace Rule

variable {rule : Rule}

theorem matches_hexNumber_iff : Rule.hexNumber.Matches word ↔ IsHexNumber word := by
  constructor
  · rintro ⟨⟩
    next hmark hne hdigits =>
      exact .digits hmark hne fun d hd => isHexDigit_iff.mpr (hdigits d hd)
  · rintro ⟨hmark, hne, hdigits⟩
    exact .hexNumber hmark hne fun d hd => isHexDigit_iff.mp (hdigits d hd)

theorem Matches.ne_nil (h : rule.Matches word) : word ≠ [] := by
  cases h with
  | fixed hmem =>
      obtain ⟨c, more, hword, -⟩ := head_of_fixed hmem
      rw [hword]
      exact List.cons_ne_nil _ _
  | reserved hmem =>
      obtain ⟨c, more, hword, -⟩ := (isName_of_reserved hmem).exists_cons
      rw [hword]
      exact List.cons_ne_nil _ _
  | identifier hname =>
      obtain ⟨c, more, rfl, -⟩ := hname.exists_cons
      exact List.cons_ne_nil _ _
  | number hnumber =>
      obtain ⟨c, more, rfl, -⟩ := hnumber.head
      exact List.cons_ne_nil _ _
  | hexNumber => exact List.cons_ne_nil _ _
  | lineComment => exact List.cons_ne_nil _ _
  | opener construct => exact construct.opener_ne_nil

/-- Where a word starts, only reserved words and identifiers match. -/
theorem Matches.of_isIdentifierStart (h : rule.Matches word) (hbegins : word <+: c :: text)
    (hc : isIdentifierStart c = true) :
    IsName word ∧ (rule = .identifier ∨
      ∃ letters kind, word = letters.toList ∧ (letters, kind) ∈ reservedWords ∧
        rule = .reserved kind) := by
  have hhead : ∀ {d : Char} {more : Text}, word = d :: more → isIdentifierStart d = true := by
    rintro d more rfl
    obtain ⟨rest, hrest⟩ := hbegins
    rw [(List.cons.inj hrest).1]
    exact hc
  cases h with
  | fixed hmem =>
      obtain ⟨d, more, hword, hd, -⟩ := head_of_fixed hmem
      rw [hhead hword] at hd
      cases hd
  | reserved hmem => exact ⟨isName_of_reserved hmem, Or.inr ⟨_, _, rfl, hmem, rfl⟩⟩
  | identifier hname => exact ⟨hname, Or.inl rfl⟩
  | number hnumber =>
      obtain ⟨d, more, hword, hd | rfl⟩ := hnumber.head
      · exact absurd (hhead hword) (by rw [isIdentifierStart_of_isDigit hd]; decide)
      · exact absurd (hhead hword) (by decide)
  | hexNumber => exact absurd (hhead rfl) (by decide)
  | lineComment => exact absurd (hhead rfl) (by decide)
  | opener construct =>
      cases construct <;> exact absurd (hhead rfl) (by decide)

/-- In code where no word starts, only numbers and fixed lexemes match. -/
theorem Matches.of_not_isIdentifierStart (h : rule.Matches word) (hbegins : word <+: c :: text)
    (hopens : ¬ Opens (c :: text)) (hc : isIdentifierStart c = false) :
    (rule = .number ∧ IsNumber word) ∨ (rule = .hexNumber ∧ IsHexNumber word) ∨
      ∃ letters kind, word = letters.toList ∧ (letters, kind) ∈ fixedLexemes ∧
        rule = .fixed kind := by
  cases h with
  | fixed hmem => exact Or.inr (Or.inr ⟨_, _, rfl, hmem, rfl⟩)
  | reserved hmem =>
      rw [((isName_of_reserved hmem).length_le hbegins).1] at hc
      cases hc
  | identifier hname =>
      rw [(hname.length_le hbegins).1] at hc
      cases hc
  | number hnumber => exact Or.inl ⟨rfl, hnumber⟩
  | hexNumber hmark hne hdigits =>
      exact Or.inr (Or.inl ⟨rfl, matches_hexNumber_iff.mp (.hexNumber hmark hne hdigits)⟩)
  | @lineComment content _ =>
      have hcomment : Opens ('/' :: '/' :: content) := ⟨['/', '/'], by decide, content, rfl⟩
      exact absurd (hcomment.mono hbegins) hopens
  | opener construct => exact absurd (construct.opens_opener.mono hbegins) hopens

theorem length_lt_of_not_begins {front : Text} (hbegins : word <+: front ++ rest)
    (h : ¬ front <+: word) : word.length < front.length := by
  by_contra hge
  exact h (List.prefix_of_prefix_length_le (List.prefix_append front rest) hbegins (by omega))

/-- Where a construct or a comment opens, it alone matches as much as the opener. -/
theorem Matches.of_opens (h : rule.Matches word) {opener : Text} (hopener : opener ∈ openers)
    (hbegins : word <+: opener ++ rest) :
    word.length < opener.length ∨ (rule = .lineComment ∧ opener <+: word) ∨
      ∃ construct : Construct, rule = .opener construct ∧ word = construct.opener ∧ word = opener := by
  by_cases hin : opener <+: word
  · have hopens : Opens word := ⟨opener, hopener, hin⟩
    cases h with
    | fixed hmem => exact absurd hin ((fixedLexemes_spec _ hmem).2.2 opener hopener)
    | reserved hmem =>
        obtain ⟨c, more, hword, hc⟩ := (isName_of_reserved hmem).exists_cons
        rw [hword] at hopens
        exact absurd hopens ((quiet_of_isIdentifierStart hc).not_opens more)
    | identifier hname =>
        obtain ⟨c, more, rfl, hc⟩ := hname.exists_cons
        exact absurd hopens ((quiet_of_isIdentifierStart hc).not_opens more)
    | number hnumber =>
        obtain ⟨c, more, rfl, hc⟩ := hnumber.head
        have hquiet : Quiet c := by
          rcases hc with hc | rfl
          · exact quiet_of_isDigit hc
          · decide
        exact absurd hopens (hquiet.not_opens more)
    | hexNumber => exact absurd hopens (Quiet.not_opens (by decide) _)
    | lineComment => exact Or.inr (Or.inl ⟨rfl, hin⟩)
    | opener construct =>
        have hsame : ∀ construct : Construct, ∀ opener ∈ openers,
            opener <+: construct.opener → construct.opener = opener := by
          rintro (_ | _ | _) <;> decide
        exact Or.inr (Or.inr ⟨construct, rfl, rfl, hsame construct opener hopener hin⟩)
  · exact Or.inl (length_lt_of_not_begins hbegins hin)

end Rule

end TokenConcord.Lexing
