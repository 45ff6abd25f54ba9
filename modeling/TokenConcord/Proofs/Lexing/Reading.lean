import TokenConcord.Proofs.Lexing.Constructs
import TokenConcord.Proofs.Lexing.Items

/-!
# Reading a text to its end

A text is read by passing over a blank or by taking its first lexeme, until nothing is left or
no lexeme starts. Facts about all lexemes of a text are inductions along its reading.
-/

namespace TokenConcord.Lexing

/-- The text from a byte offset on is read as these lexemes, and the last text is left. -/
inductive Reading : Nat → Text → List LexemeSpan → Text → Prop
  | done {offset : Nat} : Reading offset [] [] []
  | stuck {offset : Nat} {c : Char} {rest : Text} :
      isBlank c = false → firstLexeme? (c :: rest) = none →
        Reading offset (c :: rest) [] (c :: rest)
  | blank {offset : Nat} {c : Char} {rest unread : Text} {found : List LexemeSpan} :
      isBlank c = true → Reading (offset + c.utf8Size) rest found unread →
        Reading offset (c :: rest) found unread
  | lexeme {offset : Nat} {word rest unread : Text} {lexeme : Lexeme} {found : List LexemeSpan} :
      (∀ c ∈ word.head?, isBlank c = false) →
      firstLexeme? (word ++ rest) = some (lexeme, word.length) → Starts word lexeme rest →
      Reading (offset + word.width) rest found unread →
        Reading offset (word ++ rest) (⟨lexeme, offset, offset + word.width⟩ :: found) unread

variable {offset : Nat} {word rest text unread : Text} {lexeme : Lexeme}
  {found : List LexemeSpan}

/-- Lexing takes a word that is no blank and goes on behind it. -/
theorem lexemesFrom_word (hne : word ≠ []) (hblank : ∀ c ∈ word.head?, isBlank c = false)
    (hfirst : firstLexeme? (word ++ rest) = some (lexeme, word.length)) :
    lexemesFrom offset 0 (word ++ rest) =
      let later := lexemesFrom (offset + word.width) 0 rest
      (⟨lexeme, offset, offset + word.width⟩ :: later.1, later.2) := by
  obtain ⟨c, u, rfl⟩ := List.exists_cons_of_ne_nil hne
  exact lexemesFrom_lexeme (hblank c rfl) hfirst

/-- Every text is read in one way. -/
theorem reading_lexemesFrom (offset : Nat) (text : Text) :
    Reading offset text (lexemesFrom offset 0 text).1 (lexemesFrom offset 0 text).2 := by
  -- By the length of the text, since a lexeme can take several characters at once.
  induction hlength : text.length using Nat.strongRecOn generalizing text offset with
  | ind length ih =>
      subst hlength
      cases text with
      | nil => exact .done
      | cons c rest =>
          cases hblank : isBlank c with
          | true =>
              rw [lexemesFrom_blank hblank]
              exact .blank hblank (ih rest.length (Nat.lt_succ_self _) _ rest rfl)
          | false =>
              cases hfirst : firstLexeme? (c :: rest) with
              | none =>
                  rw [lexemesFrom_none hblank hfirst]
                  exact .stuck hblank hfirst
              | some first =>
                  obtain ⟨lexeme, length⟩ := first
                  obtain ⟨word, later, hsplit, rfl, hstarts⟩ := firstLexeme?_starts hfirst
                  have hhead : ∀ d ∈ word.head?, isBlank d = false := by
                    obtain ⟨d, u, rfl⟩ := List.exists_cons_of_ne_nil hstarts.ne_nil
                    rw [List.cons_append, List.cons.injEq] at hsplit
                    rintro e ⟨⟩
                    rw [← hsplit.1]
                    exact hblank
                  rw [hsplit] at hfirst ih ⊢
                  rw [lexemesFrom_word hstarts.ne_nil hhead hfirst]
                  refine .lexeme hhead hfirst hstarts (ih later.length ?_ _ later rfl)
                  have hpos := List.length_pos_iff.mpr hstarts.ne_nil
                  rw [List.length_append]
                  omega

namespace Reading

theorem lexemesFrom_eq (h : Reading offset text found unread) :
    lexemesFrom offset 0 text = (found, unread) := by
  induction h with
  | done => rfl
  | stuck hblank hfirst => exact lexemesFrom_none hblank hfirst
  | blank hblank _ ih => rw [lexemesFrom_blank hblank, ih]
  | lexeme hblank hfirst hstarts _ ih => rw [lexemesFrom_word hstarts.ne_nil hblank hfirst, ih]

theorem nil_inv (h : Reading offset [] found unread) : found = [] ∧ unread = [] := by
  have heq := h.lexemesFrom_eq
  cases heq
  exact ⟨rfl, rfl⟩

end Reading

/-- The span of the same lexeme, with its ends further on. -/
def LexemeSpan.shift (distance : Nat) (span : LexemeSpan) : LexemeSpan :=
  ⟨span.lexeme, distance + span.start, distance + span.stop⟩

/-- Reading does not depend on where the text begins. -/
theorem lexemesFrom_shift (base offset skip : Nat) (text : Text) :
    lexemesFrom (base + offset) skip text =
      ((lexemesFrom offset skip text).1.map (·.shift base), (lexemesFrom offset skip text).2) := by
  induction text generalizing offset skip with
  | nil => cases skip <;> rfl
  | cons c rest ih =>
      rw [lexemesFrom.eq_def, lexemesFrom.eq_def]
      simp only [Nat.add_assoc, ih]
      cases skip with
      | succ skip => rfl
      | zero =>
          dsimp only
          split
          · rfl
          · split <;> simp [LexemeSpan.shift]

theorem Reading.unshift {base : Nat} (h : Reading (base + offset) text found unread) :
    ∃ inner, Reading offset text inner unread ∧ found = inner.map (·.shift base) := by
  have hread := reading_lexemesFrom offset text
  have hshift := h.lexemesFrom_eq
  rw [lexemesFrom_shift] at hshift
  obtain ⟨hfound, hunread⟩ := Prod.mk.inj hshift
  rw [hunread] at hread
  exact ⟨_, hread, hfound.symm⟩

theorem tokensOf_shift (base : Nat) (found : List LexemeSpan) :
    tokensOf (found.map (·.shift base)) = (tokensOf found).map (·.shift base) := by
  rw [tokensOf, tokensOf, List.map_map, List.map_map]
  rfl

theorem modeBehind_shift (base : Nat) (found : List LexemeSpan) :
    modeBehind (found.map (·.shift base)) = modeBehind found := by
  rw [modeBehind, List.getLast?_map]
  cases hlast : found.getLast? <;> simp only [modeBehind, hlast] <;> rfl

/-! ## What is left open -/

/-- The lexeme is reported as a whole. -/
structure Lexeme.Whole (lexeme : Lexeme) : Prop where
  mode : lexeme.modeAfter = .default
  kind : ∀ construct : Construct, lexeme.kind ∉ construct.parts

theorem Lexeme.whole_simple {kind : Kind} (h : kind ∉ constructKinds) :
    (Lexeme.simple kind).Whole :=
  ⟨rfl, fun _ hmem => h (mem_constructKinds_of_mem_parts hmem)⟩

theorem Construct.whole_closed (construct : Construct) : (construct.lexeme .closed).Whole := by
  refine ⟨construct.modeAfter_lexeme_closed, fun other => ?_⟩
  rw [construct.kind_lexeme_closed]
  cases construct <;> cases other <;> decide

theorem Construct.not_whole_opened (construct : Construct) :
    ¬ (construct.lexeme .opened).Whole := by
  intro h
  have hmode := h.mode
  rw [construct.modeAfter_lexeme_opened] at hmode
  cases hmode

/-- A first lexeme is whole, or is a construct that takes up the text. -/
theorem Starts.whole_or_opened (h : Starts word lexeme rest) :
    lexeme.Whole ∨ ∃ construct : Construct, lexeme = construct.lexeme .opened ∧ rest = [] := by
  cases h with
  | simple _ hkind _ => exact Or.inl (Lexeme.whole_simple hkind)
  | closed _ => exact Or.inl (Construct.whole_closed _)
  | @opened construct _ _ => exact Or.inr ⟨construct, rfl, rfl⟩

theorem modeBehind_whole (h : ∀ span ∈ found, span.lexeme.Whole) : modeBehind found = .default := by
  unfold modeBehind
  cases hlast : found.getLast? with
  | none => rfl
  | some span => exact (h span (List.mem_of_getLast? hlast)).mode

@[simp] theorem modeBehind_concat (found : List LexemeSpan) (span : LexemeSpan) :
    modeBehind (found ++ [span]) = span.lexeme.modeAfter := by
  rw [modeBehind, List.getLast?_concat]
  rfl

/-- Of the lexemes of a text that is read to its end only the last one can stay open. -/
theorem Reading.whole_or_opened (h : Reading offset text found []) :
    (∀ span ∈ found, span.lexeme.Whole) ∨
      ∃ (construct : Construct) (front : List LexemeSpan) (start : Nat),
        found = front ++ [⟨construct.lexeme .opened, start, offset + text.width⟩] ∧
          ∀ span ∈ front, span.lexeme.Whole := by
  generalize hunread : ([] : Text) = unread at h
  induction h with
  | done =>
      refine Or.inl fun span hmem => ?_
      cases hmem
  | stuck => cases hunread
  | blank _ _ ih =>
      rcases ih hunread with hall | ⟨construct, front, start, rfl, hfront⟩
      · exact Or.inl hall
      · refine Or.inr ⟨construct, front, start, ?_, hfront⟩
        rw [Text.width_cons, Nat.add_assoc]
  | @lexeme offset word rest _ lexeme found _ _ hstarts hrest ih =>
      rcases hstarts.whole_or_opened with hwhole | ⟨construct, rfl, rfl⟩
      · have hcons : ∀ spans : List LexemeSpan, (∀ span ∈ spans, span.lexeme.Whole) →
            ∀ span ∈ (⟨lexeme, offset, offset + word.width⟩ : LexemeSpan) :: spans,
              span.lexeme.Whole := by
          intro spans hspans
          rw [List.forall_mem_cons]
          exact ⟨hwhole, hspans⟩
        rcases ih hunread with hall | ⟨construct, front, start, rfl, hfront⟩
        · exact Or.inl (hcons found hall)
        · refine Or.inr ⟨construct, _ :: front, start, ?_, hcons front hfront⟩
          rw [Text.width_append, Nat.add_assoc]
          rfl
      · -- An opened construct takes up the text, so nothing is read behind it.
        rw [hrest.nil_inv.1]
        refine Or.inr ⟨construct, [], offset, ?_, fun span hmem => ?_⟩
        · rw [List.append_nil]
          rfl
        · cases hmem

@[simp] theorem tokensOf_append (front found : List LexemeSpan) :
    tokensOf (front ++ found) = tokensOf front ++ tokensOf found :=
  List.map_append

/-! ## Lines -/

/-- The tokens of a line in a mode, and the mode behind it. -/
inductive LineReading : Text → Mode → LexedLine → Prop
  | code {line : Text} {found : List LexemeSpan} :
      Reading 0 line found [] → LineReading line .default ⟨tokensOf found, modeBehind found⟩
  | inside {construct : Construct} {line : Text} :
      construct.content? line = none →
        LineReading line (.inside construct)
          ⟨[⟨construct.contentKind, 0, line.width⟩], .inside construct⟩
  | closes {construct : Construct} {content rest : Text} {found : List LexemeSpan} :
      construct.content? (content ++ (construct.closing ++ rest)) = some content →
      Reading (content ++ construct.closing).width rest found [] →
        LineReading (content ++ (construct.closing ++ rest)) (.inside construct)
          ⟨⟨construct.endKind, 0, (content ++ construct.closing).width⟩ :: tokensOf found,
            modeBehind found⟩

theorem lexRest_ok_iff {number : Nat} {done : List Token} {lexed : LexedLine} :
    lexRest (word ++ rest) number word.length done = .ok lexed ↔
      ∃ found, Reading word.width rest found [] ∧
        lexed = ⟨done ++ tokensOf found, modeBehind found⟩ := by
  rw [lexRest, List.take_left, List.drop_left]
  have hreading := reading_lexemesFrom word.width rest
  generalize lexemesFrom word.width 0 rest = lexemes at hreading
  obtain ⟨found, unread⟩ := lexemes
  dsimp only at hreading ⊢
  cases unread with
  | cons c unread =>
      -- Some text is left over, and there is no other way to read it.
      refine iff_of_false (fun h => by cases h) ?_
      rintro ⟨other, hother, -⟩
      have hsame := hreading.lexemesFrom_eq.symm.trans hother.lexemesFrom_eq
      cases hsame
  | nil =>
      constructor
      · intro h
        cases h
        exact ⟨found, hreading, rfl⟩
      · rintro ⟨other, hother, rfl⟩
        have hsame := hreading.lexemesFrom_eq.symm.trans hother.lexemesFrom_eq
        cases hsame
        rfl

theorem LineReading.inside_inv {construct : Construct} {content : Text} {lexed : LexedLine}
    (h : LineReading (content ++ (construct.closing ++ rest)) (.inside construct) lexed)
    (hcontent : construct.content? (content ++ (construct.closing ++ rest)) = some content) :
    ∃ found, Reading (content ++ construct.closing).width rest found [] ∧
      lexed = ⟨⟨construct.endKind, 0, (content ++ construct.closing).width⟩ :: tokensOf found,
        modeBehind found⟩ := by
  generalize hline : content ++ (construct.closing ++ rest) = line at h
  cases h with
  | inside hnone =>
      rw [← hline, hcontent] at hnone
      cases hnone
  | @closes _ other later found hsome hread =>
      rw [← hline, hcontent] at hsome
      cases hsome
      rw [← List.append_assoc, ← List.append_assoc] at hline
      cases List.append_cancel_left hline
      exact ⟨found, hread, rfl⟩

/-- Lexing a line gives what the rules of reading say, and fails only where there is nothing to
say. -/
theorem lexLine_ok_iff {line : Text} {mode : Mode} {number : Nat} {lexed : LexedLine} :
    lexLine line mode number = .ok lexed ↔ LineReading line mode lexed := by
  cases mode with
  | default =>
      refine (@lexRest_ok_iff [] line number [] lexed).trans ⟨?_, ?_⟩
      · rintro ⟨found, hread, rfl⟩
        exact .code hread
      · rintro ⟨hread⟩
        exact ⟨_, hread, rfl⟩
  | inside construct =>
      rw [lexLine, construct.closer?_eq]
      cases hcontent : construct.content? line with
      | none =>
          constructor
          · intro h
            cases h
            exact .inside hcontent
          · intro h
            cases h with
            | inside => rfl
            | closes hsome =>
                rw [hcontent] at hsome
                cases hsome
      | some content =>
          obtain ⟨rest, rfl⟩ := Construct.content?_eq_some hcontent
          dsimp only [Option.map_some]
          rw [← List.append_assoc, lexRest_ok_iff, List.take_left, List.append_assoc]
          constructor
          · rintro ⟨found, hread, rfl⟩
            exact .closes hcontent hread
          · intro h
            exact h.inside_inv hcontent

end TokenConcord.Lexing
