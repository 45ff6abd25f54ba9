import TokenConcord.Proofs.Lexing.Failures
import TokenConcord.Proofs.Lexing.LineFeeds

/-!
# Lexing across a blank

No lexeme of code but a line comment goes on over a blank, and none is decided by what stands
behind one. So a line that leaves nothing open is lexed in front of a blank as it is by itself, and
what stands behind the blank as a line of its own.
-/

namespace TokenConcord.Lexing

variable {offset : Nat} {word line front rest : Text} {lexeme : Lexeme} {found : List LexemeSpan}
  {d : Char}

/-- A line comment takes all of a text that is read to its end. -/
theorem Reading.of_lineComment (h : Reading offset rest found [])
    (hfirst : firstLexeme? (word ++ rest) = some (lexeme, word.length))
    (hcomment : ['/', '/'] <+: word ++ rest) : lexeme = .simple .lineComment ∧ rest = [] := by
  obtain ⟨hlexeme, -, hfeed⟩ := split_lineComment hfirst hcomment
  refine ⟨hlexeme, ?_⟩
  cases rest with
  | nil => rfl
  | cons c rest =>
      -- Reading would stop at the line feed that the comment ends at.
      have hstop := h.lexemesFrom_eq
      rw [hfeed c rfl, lexemesFrom_none (by decide) (firstLexeme?_feed_none rest)] at hstop
      cases hstop

/-- A text of whole lexemes, the last one no line comment, is read in front of a blank as it is by
itself. -/
theorem Reading.append_blank (h : Reading offset line found []) (hd : isBlank d = true)
    (hwhole : ∀ span ∈ found, span.lexeme.Whole)
    (hlast : ∀ span ∈ found.getLast?, span.lexeme ≠ .simple .lineComment) (more : Text) :
    lexemesFrom offset 0 (line ++ d :: more) =
      let later := lexemesFrom (offset + line.width + d.utf8Size) 0 more
      (found ++ later.1, later.2) := by
  have hgap : d ∈ gaps := mem_gaps_iff.mpr (Or.inl hd)
  generalize hunread : ([] : Text) = unread at h
  induction h with
  | done => exact lexemesFrom_blank hd _ more
  | stuck => cases hunread
  | blank hblank _ ih =>
      rw [List.cons_append, lexemesFrom_blank hblank, ih hwhole hlast hunread, Text.width_cons,
        ← Nat.add_assoc]
  | @lexeme offset word rest unread lexeme found hblank hfirst hstarts hrest ih =>
      subst hunread
      obtain ⟨hhead, htail⟩ := List.forall_mem_cons.mp hwhole
      have hcomment : ['/', '/'] <+: word ++ rest → d = '\n' := by
        intro hslashes
        obtain ⟨hlexeme, rfl⟩ := hrest.of_lineComment hfirst hslashes
        obtain ⟨rfl, -⟩ := hrest.nil_inv
        exact absurd hlexeme (hlast _ rfl)
      have hkept : firstLexeme? (word ++ (rest ++ d :: more)) = some (lexeme, word.length) := by
        rw [← List.append_assoc, firstLexeme?_whole hgap hcomment ?_ more, hfirst]
        intro other length hother
        rw [hfirst] at hother
        cases hother
        exact hhead
      have hbehind : ∀ span ∈ found.getLast?, span.lexeme ≠ .simple .lineComment := by
        intro span hmem
        refine hlast span ?_
        rw [List.getLast?_cons, hmem]
        rfl
      rw [List.append_assoc, lexemesFrom_word hstarts.ne_nil hblank hkept, ih htail hbehind rfl,
        Text.width_append, ← Nat.add_assoc]
      rfl

theorem modeBehind_append (h : ∀ span ∈ found, span.lexeme.Whole) (later : List LexemeSpan) :
    modeBehind (found ++ later) = modeBehind later := by
  induction found with
  | nil => rfl
  | cons span found ih =>
      obtain ⟨hspan, hfound⟩ := List.forall_mem_cons.mp h
      rw [List.cons_append, modeBehind_cons hspan.mode, ih hfound]

/-- The rest of a line in front of a blank gives its tokens, and what stands behind the blank
decides how the line ends. -/
theorem lexRest_blank {number : Nat} {done : List Token} (h : Reading front.width rest found [])
    (hwhole : ∀ span ∈ found, span.lexeme.Whole)
    (hlast : ∀ span ∈ found.getLast?, span.lexeme ≠ .simple .lineComment) (more : Text) :
    lexRest (front ++ (rest ++ ' ' :: more)) number front.length done =
      match lexLine more .default number with
      | .ok behind => .ok ⟨done ++ tokensOf found ++
          behind.tokens.map (·.shift ((front ++ rest).width + 1)), behind.mode⟩
      | .error fault =>
          .error ⟨fault.line, fault.column + (front ++ rest).length + 1, fault.char⟩ := by
  obtain ⟨later, unread, hmore⟩ :
      ∃ later unread, lexemesFrom 0 0 more = (later, unread) := ⟨_, _, rfl⟩
  have hall : lexemesFrom front.width 0 (rest ++ ' ' :: more) =
      (found ++ later.map (·.shift ((front ++ rest).width + 1)), unread) := by
    have hshift := lexemesFrom_shift ((front ++ rest).width + 1) 0 0 more
    have hone : ' '.utf8Size = 1 := rfl
    rw [hmore, Nat.add_zero] at hshift
    rw [h.append_blank (by decide) hwhole hlast, hone, ← Text.width_append, hshift]
  cases unread with
  | nil =>
      have hself : lexLine more .default number = _ := @lexRest_done [] more later number [] hmore
      rw [lexRest_done hall, hself]
      simp only [tokensOf_append, tokensOf_shift, modeBehind_append hwhole, modeBehind_shift,
        List.append_assoc, List.nil_append]
  | cons c unread =>
      have hself : lexLine more .default number = _ :=
        @lexRest_stuck [] more later c number [] unread hmore
      have hreading := reading_lexemesFrom 0 more
      rw [hmore] at hreading
      obtain ⟨read, rfl⟩ := hreading.unread_suffix
      rw [lexRest_stuck hall, hself]
      simp only [List.length_append, List.length_cons, List.length_nil]
      congr 2
      omega

theorem Reading.whole_of_mode (h : Reading offset line found [])
    (hmode : modeBehind found = .default) : ∀ span ∈ found, span.lexeme.Whole := by
  refine h.whole_or_opened.resolve_right ?_
  rintro ⟨construct, front, start, rfl, -⟩
  rw [modeBehind_concat, construct.modeAfter_lexeme_opened] at hmode
  cases hmode

theorem getLast?_ne_lineComment {done : List Token}
    (h : ∀ token ∈ (done ++ tokensOf found).getLast?, token.kind ≠ .lineComment) :
    ∀ span ∈ found.getLast?, span.lexeme ≠ .simple .lineComment := by
  intro span hspan hcomment
  refine h ⟨span.lexeme.kind, span.start, span.stop⟩ ?_ (congrArg Lexeme.kind hcomment)
  rw [List.getLast?_append, tokensOf, List.getLast?_map, hspan]
  rfl

/-- Whatever mode a line starts in, if it leaves nothing open and does not end with a line comment,
then with a blank and more text behind it the line has its own tokens and those that the text has
as a line, further on, or the error of the text, further on. -/
theorem lexLine_blank {number : Nat} {mode : Mode} {line more : Text} {lexed : LexedLine}
    (h : lexLine line mode number = .ok lexed) (hmode : lexed.mode = .default)
    (hlast : ∀ token ∈ lexed.tokens.getLast?, token.kind ≠ .lineComment) :
    lexLine (line ++ ' ' :: more) mode number =
      match lexLine more .default number with
      | .ok behind =>
          .ok ⟨lexed.tokens ++ behind.tokens.map (·.shift (line.width + 1)), behind.mode⟩
      | .error fault => .error ⟨fault.line, fault.column + line.length + 1, fault.char⟩ := by
  cases lexLine_ok_iff.mp h with
  | code hread =>
      exact @lexRest_blank [] line _ number [] hread (hread.whole_of_mode hmode)
        (@getLast?_ne_lineComment _ [] hlast) more
  | inside => cases hmode
  | @closes construct content rest found hcontent hread =>
      have hgap : construct.content? (content ++ (construct.closing ++ (rest ++ ' ' :: more))) =
          some content := by
        have hfound := @Construct.content?_gap_some ' ' _ _ _ (by decide) hcontent more
        rwa [List.append_assoc, List.append_assoc] at hfound
      let last : Token := ⟨construct.endKind, 0, (content ++ construct.closing).width⟩
      have hbehind := @lexRest_blank _ _ _ number [last] hread (hread.whole_of_mode hmode)
        (@getLast?_ne_lineComment _ [last] hlast) more
      rw [List.append_assoc content _ rest] at hbehind
      rw [List.append_assoc, List.append_assoc, lexLine_closes hgap]
      exact hbehind

/-- Behind the end of a text literal: more text that opens a comment, and more text that does not
lex. -/
theorem lexLine_blank_text :
    let line : Text := "é\" x".toList
    let lexed : LexedLine := ⟨[⟨.textLiteralEnd, 0, 3⟩, ⟨.identifier, 4, 5⟩], .default⟩
    lexLine line (.inside .text) 3 = .ok lexed ∧
      (∀ token ∈ lexed.tokens.getLast?, token.kind ≠ .lineComment) ∧
      lexLine (line ++ ' ' :: "/* y".toList) (.inside .text) 3 =
        .ok ⟨lexed.tokens ++ [⟨.multilineCommentStart, 6, 10⟩], .inside .comment⟩ ∧
      lexLine (line ++ ' ' :: "1 $".toList) (.inside .text) 3 = .error ⟨3, 8, '$'⟩ := by
  intro line lexed
  have hline : lexLine line (.inside .text) 3 = .ok lexed := by decide
  have hlast : ∀ token ∈ lexed.tokens.getLast?, token.kind ≠ .lineComment := by
    rintro token ⟨⟩
    decide
  have hopens : lexLine "/* y".toList .default 3 =
      .ok ⟨[⟨.multilineCommentStart, 0, 4⟩], .inside .comment⟩ := by decide
  have hstops : lexLine "1 $".toList .default 3 = .error ⟨3, 3, '$'⟩ := by decide
  have hcomment := @lexLine_blank 3 _ _ "/* y".toList _ hline rfl hlast
  have hfault := @lexLine_blank 3 _ _ "1 $".toList _ hline rfl hlast
  rw [hopens] at hcomment
  rw [hstops] at hfault
  exact ⟨hline, hlast, hcomment, hfault⟩

end TokenConcord.Lexing
