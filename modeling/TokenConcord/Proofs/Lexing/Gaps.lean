import TokenConcord.Proofs.Lexing.Reading

/-!
# What ends a lexeme

White space and line feeds are part of no lexeme of code, so the first lexeme of a text does not
depend on what stands behind the first of them. A construct with delimiters goes on over them to
its closer.
-/

namespace TokenConcord.Lexing

/-- White space between lexemes, and line feeds. -/
def gaps : List Char := [' ', '\t', '\r', '\x0c', '\n']

theorem mem_gaps_iff {c : Char} : c ∈ gaps ↔ isBlank c = true ∨ c = '\n' := by
  simp only [gaps, isBlank, List.mem_cons, List.not_mem_nil, or_false, Bool.or_eq_true, beq_iff_eq,
    or_assoc]

variable {d : Char} {line content : Text}

/-- A test that no gap passes. -/
theorem fails_of_mem_gaps {test : Char → Bool} (h : ∀ c ∈ gaps, test c = false) (hd : d ∈ gaps) :
    test d = false := h d hd

theorem ne_of_mem_gaps {c : Char} (h : c ∉ gaps) (hd : d ∈ gaps) : d ≠ c := by
  rintro rfl
  exact h hd

/-! ## Runs and numbers -/

theorem countWhile_gap {test : Char → Bool} (htest : test d = false) (line rest : Text) :
    countWhile test (line ++ d :: rest) = countWhile test line := by
  induction line with
  | nil => simp [countWhile, htest]
  | cons c line ih =>
      simp only [countWhile] at ih ⊢
      rw [List.cons_append, List.takeWhile_cons, List.takeWhile_cons]
      split
      · rw [List.length_cons, ih, List.length_cons]
      · rfl

theorem exponentLength_gap (hd : d ∈ gaps) (line rest : Text) :
    exponentLength (line ++ d :: rest) = exponentLength line := by
  have hdigit : d.isDigit = false := fails_of_mem_gaps (by decide) hd
  have hmark : ¬ (d = 'e' ∨ d = 'E') := by
    rintro (rfl | rfl) <;> exact absurd hd (by decide)
  have hsign : ¬ (d = '+' ∨ d = '-') := by
    rintro (rfl | rfl) <;> exact absurd hd (by decide)
  match line with
  | [] => simp [exponentLength, hmark]
  | [e] => simp [exponentLength, countWhile, hsign, hdigit]
  | e :: c :: line =>
      unfold exponentLength
      dsimp only [List.cons_append]
      -- A sign in front of the digits is part of the line.
      split
      · split
        · rw [List.drop_one, List.drop_one, List.tail_cons, List.tail_cons,
            countWhile_gap hdigit]
        · rw [List.drop_zero, List.drop_zero, ← List.cons_append, countWhile_gap hdigit]
      · rfl

theorem fractionLength_gap (hd : d ∈ gaps) (line rest : Text) :
    fractionLength (line ++ d :: rest) = fractionLength line := by
  have hdigit : d.isDigit = false := fails_of_mem_gaps (by decide) hd
  cases line with
  | nil => simp [fractionLength, ne_of_mem_gaps (c := '.') (by decide) hd]
  | cons c line =>
      rw [List.cons_append, fractionLength, fractionLength, countWhile_gap hdigit]

theorem numberLength_gap (hd : d ∈ gaps) (line rest : Text) :
    numberLength (line ++ d :: rest) = numberLength line := by
  have hdigit : d.isDigit = false := fails_of_mem_gaps (by decide) hd
  have hwhole : QuietUpTo (countWhile Char.isDigit line) line := .countWhile quiet_of_isDigit line
  have hpart := (hwhole.add (.fractionLength _)).le
  unfold numberLength
  dsimp only
  rw [countWhile_gap hdigit, List.drop_append_of_le_length hwhole.le, fractionLength_gap hd,
    List.drop_append_of_le_length hpart, exponentLength_gap hd]

theorem hexLength_gap (hd : d ∈ gaps) (line rest : Text) :
    hexLength (line ++ d :: rest) = hexLength line := by
  have hdigit : isHexDigit d = false := fails_of_mem_gaps (by decide) hd
  have hzero : d ≠ '0' := ne_of_mem_gaps (by decide) hd
  have hmark : ¬ (d = 'x' ∨ d = 'X') := by
    rintro (rfl | rfl) <;> exact absurd hd (by decide)
  match line with
  | [] => simp [hexLength, hzero]
  | [c] =>
      by_cases hc : c = '0'
      · simp [hexLength, hc, hmark]
      · simp [hexLength, hc]
  | c :: x :: line =>
      by_cases hc : c = '0'
      · subst hc
        rw [List.cons_append, List.cons_append, hexLength, hexLength, countWhile_gap hdigit]
      · simp [hexLength, hc]

/-! ## Words and fixed lexemes -/

theorem identifierTail_gap (hd : d ∈ gaps) (line rest : Text) :
    identifierTail (line ++ d :: rest) = identifierTail line := by
  have hpart : isIdentifierPart d = false := fails_of_mem_gaps (by decide) hd
  have hstart : isIdentifierStart d = false := fails_of_mem_gaps (by decide) hd
  have hpoint : d ≠ '.' := ne_of_mem_gaps (by decide) hd
  fun_induction identifierTail line with
  | case1 => exact identifierTail_stop (.cons (by simp [inWord, hpart, hpoint]) rest)
  | case2 c line hc ih =>
      rw [List.cons_append, identifierTail.eq_def]
      dsimp only
      rw [if_pos hc, ih]
  | case3 e more he hc ih =>
      rw [List.cons_append, List.cons_append, identifierTail.eq_def]
      dsimp only
      rw [if_neg hc, if_pos rfl, if_pos he, ih]
  | case4 e more he hc =>
      rw [List.cons_append, List.cons_append, identifierTail.eq_def]
      dsimp only
      rw [if_neg hc, if_pos rfl, if_neg he]
  | case5 hc => simp [identifierTail, hc, hstart]
  | case6 c line hc hne =>
      rw [List.cons_append, identifierTail.eq_def]
      dsimp only
      rw [if_neg hc, if_neg hne]

theorem wordKind_gap (hd : d ∈ gaps) (word line rest : Text) :
    wordKind word (line ++ d :: rest) = wordKind word line := by
  have hpoint : d ≠ '.' := ne_of_mem_gaps (by decide) hd
  cases line with
  | nil => simp [wordKind, hpoint]
  | cons c line => rfl

theorem isPrefixOf_gap {word : Text} (h : d ∉ word) (line rest : Text) :
    word.isPrefixOf (line ++ d :: rest) = word.isPrefixOf line := by
  induction word generalizing line with
  | nil => cases line <;> rfl
  | cons c word ih =>
      obtain ⟨hc, hword⟩ := not_or.mp (List.mem_cons.not.mp h)
      cases line with
      | nil => simp [List.isPrefixOf, Ne.symm hc]
      | cons e line => rw [List.cons_append, List.isPrefixOf, List.isPrefixOf, ih hword]

theorem fixedLexeme?_gap (hd : d ∈ gaps) (line rest : Text) :
    fixedLexeme? (line ++ d :: rest) = fixedLexeme? line := by
  have hfixed : ∀ entry ∈ fixedLexemes, ∀ c ∈ gaps, c ∉ entry.1.toList := by decide
  have hsame : ∀ entry ∈ fixedLexemes,
      entry.1.toList.isPrefixOf (line ++ d :: rest) = entry.1.toList.isPrefixOf line :=
    fun entry hmem => isPrefixOf_gap (hfixed entry hmem d hd) line rest
  rw [fixedLexeme?, fixedLexeme?, List.find?_congr hsame]

/-! ## The first lexeme -/

theorem Opens.of_gap {rest : Text} (hd : d ∈ gaps) (h : Opens (line ++ d :: rest)) :
    Opens line := by
  have hopeners : ∀ opener ∈ openers, ∀ c ∈ gaps, c ∉ opener := by decide
  obtain ⟨opener, hmem, hprefix⟩ := h
  refine ⟨opener, hmem, ?_⟩
  rw [← List.isPrefixOf_iff_prefix] at hprefix ⊢
  rwa [isPrefixOf_gap (hopeners opener hmem d hd)] at hprefix

/-- Where nothing opens, only the text up to the next gap matters. -/
theorem firstLexeme?_gap (hd : d ∈ gaps) (hopens : ¬ Opens line) (rest : Text) :
    firstLexeme? (line ++ d :: rest) = firstLexeme? line := by
  have hbehind : ¬ Opens (line ++ d :: rest) := fun h => hopens (h.of_gap hd)
  cases line with
  | nil =>
      have hstart : isIdentifierStart d = false := fails_of_mem_gaps (by decide) hd
      have hhex := hexLength_gap hd [] rest
      have hnumber := numberLength_gap hd [] rest
      have hfixed := fixedLexeme?_gap hd [] rest
      rw [List.nil_append] at hbehind hhex hnumber hfixed ⊢
      rw [firstLexeme?_plain hbehind, hstart, if_neg Bool.false_ne_true, hhex, hnumber, hfixed]
      rfl
  | cons c line =>
      have hhex := hexLength_gap hd (c :: line) rest
      have hnumber := numberLength_gap hd (c :: line) rest
      have hfixed := fixedLexeme?_gap hd (c :: line) rest
      -- The word ends in front of the gap, so what it is cut off from is the line.
      have htail : 1 + identifierTail line ≤ (c :: line).length := by
        have hle := (QuietUpTo.identifierTail line).le
        rw [List.length_cons]
        omega
      have htake := @List.take_append_of_le_length _ _ (d :: rest) _ htail
      have hdrop := @List.drop_append_of_le_length _ _ (d :: rest) _ htail
      rw [List.cons_append] at hbehind hhex hnumber hfixed htake hdrop ⊢
      rw [firstLexeme?_plain hbehind, firstLexeme?_plain hopens, hhex, hnumber, hfixed,
        identifierTail_gap hd]
      dsimp only
      rw [htake, hdrop, wordKind_gap hd]

/-! ## Constructs -/

section Constructs

variable {construct : Construct} {rest : Text}

theorem QuoteNext.of_gap (hd : d ∈ gaps) (h : QuoteNext (line ++ d :: rest)) : QuoteNext line := by
  cases line with
  | nil => exact absurd (Option.some.inj h) (ne_of_mem_gaps (by decide) hd)
  | cons c line => exact h

theorem CloserNext.of_gap (hd : d ∈ gaps) (h : CloserNext (line ++ d :: rest)) :
    CloserNext line := by
  have hcloser : ∀ c ∈ gaps, c ∉ ['*', '/'] := by decide
  unfold CloserNext at *
  rw [← List.isPrefixOf_iff_prefix] at h ⊢
  rwa [isPrefixOf_gap (hcloser d hd)] at h

theorem quotedContent?_gap_some (hd : d ∈ gaps) (h : quotedContent? line = some content)
    (rest : Text) : quotedContent? (line ++ d :: rest) = some content := by
  obtain ⟨hquoted, behind, rfl, hbehind⟩ := quotedContent?_eq_some h
  rw [List.append_assoc, List.cons_append]
  exact hquoted.quotedContent? fun hquote => hbehind (hquote.of_gap hd)

theorem quotedContent?_gap_none (hd : d ∈ gaps) (h : quotedContent? line = none) (rest : Text) :
    quotedContent? (line ++ d :: rest) = (quotedContent? rest).map (line ++ d :: ·) := by
  have hquote : d ≠ '"' := ne_of_mem_gaps (by decide) hd
  have hquoted := quotedContent?_eq_none h
  clear h
  induction hquoted with
  | nil => exact quotedContent?_char hquote rest
  | char hc _ ih =>
      rw [List.cons_append, quotedContent?_char hc, ih, Option.map_map]
      rfl
  | pair _ ih =>
      rw [List.cons_append, List.cons_append, quotedContent?_pair, ih, Option.map_map]
      rfl

theorem commentContent?_gap_some (hd : d ∈ gaps) (h : commentContent? line = some content)
    (rest : Text) : commentContent? (line ++ d :: rest) = some content := by
  induction line generalizing content with
  | nil => cases h
  | cons c line ih =>
      by_cases hcloser : CloserNext (c :: line)
      · obtain ⟨behind, hbehind⟩ := hcloser
        cases hbehind
        cases h
        rfl
      · rw [commentContent?_char hcloser] at h
        obtain ⟨inner, hinner, rfl⟩ := Option.map_eq_some_iff.mp h
        have hnot : ¬ CloserNext (c :: (line ++ d :: rest)) := fun hnext =>
          hcloser (@CloserNext.of_gap d (c :: line) rest hd hnext)
        rw [List.cons_append, commentContent?_char hnot, ih hinner, Option.map_some]

theorem commentContent?_gap_none (hd : d ∈ gaps) (h : commentContent? line = none)
    (rest : Text) :
    commentContent? (line ++ d :: rest) = (commentContent? rest).map (line ++ d :: ·) := by
  induction line with
  | nil =>
      have hstar : d ≠ '*' := ne_of_mem_gaps (by decide) hd
      refine commentContent?_char ?_
      rintro ⟨behind, hbehind⟩
      exact hstar (List.cons.inj hbehind).1.symm
  | cons c line ih =>
      by_cases hcloser : CloserNext (c :: line)
      · obtain ⟨behind, hbehind⟩ := hcloser
        cases hbehind
        cases h
      · rw [commentContent?_char hcloser] at h
        have hnot : ¬ CloserNext (c :: (line ++ d :: rest)) := fun hnext =>
          hcloser (@CloserNext.of_gap d (c :: line) rest hd hnext)
        rw [List.cons_append, commentContent?_char hnot, ih (Option.map_eq_none_iff.mp h),
          Option.map_map]
        rfl

namespace Construct

/-- A closer in front of a gap is found without what stands behind the gap. -/
theorem content?_gap_some (hd : d ∈ gaps) (h : construct.content? line = some content)
    (rest : Text) : construct.content? (line ++ d :: rest) = some content := by
  cases construct with
  | comment => exact commentContent?_gap_some hd h rest
  | text | quotedIdentifier => exact quotedContent?_gap_some hd h rest

/-- Without a closer in front of a gap the search goes on behind it as from the start. -/
theorem content?_gap_none (hd : d ∈ gaps) (h : construct.content? line = none) (rest : Text) :
    construct.content? (line ++ d :: rest) =
      (construct.content? rest).map (line ++ d :: ·) := by
  cases construct with
  | comment => exact commentContent?_gap_none hd h rest
  | text | quotedIdentifier => exact quotedContent?_gap_none hd h rest

end Construct

end Constructs

/-- A first lexeme that leaves nothing open is the same with a gap behind the line. A line comment
goes on over white space and ends at a line feed only. -/
theorem firstLexeme?_whole (hd : d ∈ gaps) (hcomment : ['/', '/'] <+: line → d = '\n')
    (hwhole : ∀ lexeme length, firstLexeme? line = some (lexeme, length) → lexeme.Whole)
    (rest : Text) : firstLexeme? (line ++ d :: rest) = firstLexeme? line := by
  by_cases hopens : Opens line
  · by_cases hslashes : ['/', '/'] <+: line
    · obtain rfl := hcomment hslashes
      obtain ⟨inner, rfl⟩ := hslashes
      change firstLexeme? ('/' :: '/' :: (inner ++ '\n' :: rest)) = firstLexeme? ('/' :: '/' :: inner)
      rw [firstLexeme?, firstLexeme?, countWhile_gap (by decide)]
    · obtain ⟨construct, inner, rfl⟩ := exists_construct hopens hslashes
      cases hcontent : construct.content? inner with
      | none =>
          have hopened := hwhole _ _ (Construct.firstLexeme?_opened hcontent)
          exact absurd hopened construct.not_whole_opened
      | some content =>
          have hgap := Construct.content?_gap_some hd hcontent rest
          obtain ⟨behind, rfl⟩ := Construct.content?_eq_some hcontent
          rw [Construct.firstLexeme?_closed hcontent]
          rw [List.append_assoc, List.append_assoc] at hgap
          rw [List.append_assoc, List.append_assoc, List.append_assoc,
            Construct.firstLexeme?_closed hgap]
  · exact firstLexeme?_gap hd hopens rest

end TokenConcord.Lexing
