import TokenConcord.Proofs.Lexing.Items
import TokenConcord.Proofs.Lexing.Lexemes

/-!
# Texts of pieces

A text of several lines can be made up of pieces: items, block comments and line comments, with
blanks or line feeds between them. A block comment may run over any number of lines. Each line of
such a text is then one of code, one inside a comment, or one that closes a comment with code
behind it, and what a line leaves open is what the next one begins in. The reference lexer gives
one token for each piece on a line.
-/

namespace TokenConcord.Lexing

/-- The text from a line on is pieces, with at least one blank or line feed between neighbours.
The flag says whether a piece may start right away. Each piece has the numbers of the lines that it
begins and ends on. -/
inductive Pieces : Bool → Nat → Text → List (Nat × Nat) → Prop
  | done {apart : Bool} {line : Nat} : Pieces apart line [] []
  | blank {apart : Bool} {line : Nat} {c : Char} {text : Text} {spans : List (Nat × Nat)} :
      c = ' ' ∨ c = '\t' → Pieces true line text spans → Pieces apart line (c :: text) spans
  | feed {apart : Bool} {line : Nat} {text : Text} {spans : List (Nat × Nat)} :
      Pieces true (line + 1) text spans → Pieces apart line ('\n' :: text) spans
  | item {line : Nat} {bond : Bond} {kind : Kind} {word rest : Text} {spans : List (Nat × Nat)} :
      Item bond word kind → Pieces false line rest spans →
        Pieces true line (word ++ rest) ((line, line) :: spans)
  | comment {line : Nat} {content rest : Text} {spans : List (Nat × Nat)} :
      ¬ ['*', '/'] <:+: content → Pieces false (line + content.count '\n') rest spans →
        Pieces true line ('/' :: '*' :: (content ++ '*' :: '/' :: rest))
          ((line, line + content.count '\n') :: spans)
  | lineComment {line : Nat} {content rest : Text} {spans : List (Nat × Nat)} :
      '\n' ∉ content → (rest = [] ∨ rest.head? = some '\n') → Pieces false line rest spans →
        Pieces true line ('/' :: '/' :: (content ++ rest)) ((line, line) :: spans)

/-- The number of pieces that stand at least in part on a line. -/
def touching (spans : List (Nat × Nat)) (line : Nat) : Nat :=
  spans.countP fun span => span.1 ≤ line && line ≤ span.2

/-! ## Lines of pieces -/

/-- A line of code made up of pieces, with their number and the mode that it leaves behind. The
last piece may be a comment that goes on behind the line. -/
inductive CodeLine : Bool → Text → Nat → Mode → Prop
  | done {apart : Bool} : CodeLine apart [] 0 .default
  | blank {apart : Bool} {c : Char} {line : Text} {count : Nat} {mode : Mode} :
      c = ' ' ∨ c = '\t' → CodeLine true line count mode → CodeLine apart (c :: line) count mode
  | item {bond : Bond} {kind : Kind} {word rest : Text} {count : Nat} {mode : Mode} :
      Item bond word kind → CodeLine false rest count mode →
        CodeLine true (word ++ rest) (count + 1) mode
  | comment {content rest : Text} {count : Nat} {mode : Mode} :
      ¬ ['*', '/'] <:+: content → CodeLine false rest count mode →
        CodeLine true ('/' :: '*' :: (content ++ '*' :: '/' :: rest)) (count + 1) mode
  | commentOpened {content : Text} :
      ¬ ['*', '/'] <:+: content → CodeLine true ('/' :: '*' :: content) 1 (.inside .comment)
  | lineComment {content : Text} :
      '\n' ∉ content → CodeLine true ('/' :: '/' :: content) 1 .default

/-- A line of pieces in a mode, with the number of pieces on it and the mode that it leaves
behind. -/
inductive PieceLine : Mode → Text → Nat → Mode → Prop
  | code {line : Text} {count : Nat} {mode : Mode} :
      CodeLine true line count mode → PieceLine .default line count mode
  | inside {line : Text} :
      ¬ ['*', '/'] <:+: line → PieceLine (.inside .comment) line 1 (.inside .comment)
  | closing {content rest : Text} {count : Nat} {mode : Mode} :
      ¬ ['*', '/'] <:+: content → CodeLine false rest count mode →
        PieceLine (.inside .comment) (content ++ '*' :: '/' :: rest) (count + 1) mode

/-- Lines from a number on, each with as many pieces as touch it, in the mode that the line before
it leaves behind. -/
inductive PieceLines (spans : List (Nat × Nat)) : Nat → Mode → List Text → Prop
  | nil {number : Nat} {mode : Mode} : PieceLines spans number mode []
  | cons {number : Nat} {mode mode' : Mode} {line : Text} {lines : List Text} :
      PieceLine mode line (touching spans number) mode' →
        PieceLines spans (number + 1) mode' lines → PieceLines spans number mode (line :: lines)

variable {apart : Bool} {number : Nat} {text line rest content : Text}
  {span : Nat × Nat} {spans : List (Nat × Nat)} {mode : Mode} {lines later : List Text}

/-! ## Pieces and line numbers -/

theorem touching_cons_of_lt (h : span.2 < number) :
    touching (span :: spans) number = touching spans number := by
  rw [touching, List.countP_cons_of_neg]
  · rfl
  · simp
    omega

theorem touching_cons_of_mem (h : span.1 ≤ number) (h' : number ≤ span.2) :
    touching (span :: spans) number = touching spans number + 1 := by
  rw [touching, List.countP_cons_of_pos]
  · rfl
  · simp [h, h']

theorem touching_eq_zero (h : ∀ span ∈ spans, number < span.1) : touching spans number = 0 := by
  rw [touching, List.countP_eq_zero]
  intro span hmem
  have hlt := h span hmem
  simp
  omega

theorem Pieces.le_start (h : Pieces apart number text spans) : ∀ span ∈ spans, number ≤ span.1 := by
  induction h with
  | done => exact fun span hmem => absurd hmem List.not_mem_nil
  | blank _ _ ih => exact ih
  | feed _ ih => exact fun span hmem => Nat.le_of_succ_le (ih span hmem)
  | item _ _ ih => exact List.forall_mem_cons.mpr ⟨Nat.le_refl _, ih⟩
  | comment _ _ ih =>
      refine List.forall_mem_cons.mpr ⟨Nat.le_refl _, fun span hmem => ?_⟩
      exact Nat.le_trans (Nat.le_add_right _ _) (ih span hmem)
  | lineComment _ _ _ ih => exact List.forall_mem_cons.mpr ⟨Nat.le_refl _, ih⟩

/-- A piece that ends before them does not touch the lines. -/
theorem PieceLines.cons_span (hspan : span.2 < number) (h : PieceLines spans number mode lines) :
    PieceLines (span :: spans) number mode lines := by
  induction h with
  | nil => exact .nil
  | cons hline _ ih =>
      exact .cons (by rwa [touching_cons_of_lt hspan]) (ih (Nat.lt_succ_of_lt hspan))

/-- Lines that lie inside a comment as a whole, and behind them the one that closes it. -/
theorem pieceLines_inside {inner : List Text} (hinner : ∀ line ∈ inner, ¬ ['*', '/'] <:+: line)
    (htouching : ∀ other, number ≤ other → other < number + inner.length →
      touching spans other = 1)
    (hlater : PieceLines spans (number + inner.length) (.inside .comment) lines) :
    PieceLines spans number (.inside .comment) (inner ++ lines) := by
  induction inner generalizing number with
  | nil => exact hlater
  | cons line inner ih =>
      obtain ⟨hline, hinner⟩ := List.forall_mem_cons.mp hinner
      rw [List.length_cons] at htouching hlater
      have hcount : touching spans number = 1 := htouching number (Nat.le_refl _) (by omega)
      refine .cons (hcount ▸ .inside hline) (ih hinner (fun other hle hlt => ?_) ?_)
      · exact htouching other (by omega) (by omega)
      · rwa [Nat.add_assoc, Nat.add_comm 1]

/-! ## Lines of a text -/

/-- A comment in front of lines of pieces. -/
theorem pieceLines_comment (hcontent : ¬ ['*', '/'] <:+: content) {first : Text}
    (hbounds : ∀ span ∈ spans, number + content.count '\n' ≤ span.1)
    (hsplit : rest.splitLines = first :: later)
    (hfirst : CodeLine false first (touching spans (number + content.count '\n')) mode)
    (hlater : PieceLines spans (number + content.count '\n' + 1) mode later) :
    ∃ first later mode,
      Text.splitLines ('/' :: '*' :: (content ++ '*' :: '/' :: rest)) = first :: later ∧
        CodeLine true first (touching ((number, number + content.count '\n') :: spans) number) mode ∧
          PieceLines ((number, number + content.count '\n') :: spans) (number + 1) mode later := by
  have hopen : ∀ line ∈ content.splitLines, ¬ ['*', '/'] <:+: line := fun line hmem hcloser =>
    hcontent (hcloser.trans (Text.isInfix_of_mem_splitLines hmem))
  have hclosing := @Text.splitLines_append_line ['*', '/'] rest first later (by decide) hsplit
  have hlength := Text.length_splitLines content
  rcases List.eq_nil_or_concat content.splitLines with hnil | ⟨before, last, hlines⟩
  · exact absurd hnil (Text.splitLines_ne_nil content)
  rw [List.concat_eq_append] at hlines
  rw [hlines, List.length_append, List.length_singleton] at hlength
  rw [hlines] at hopen
  have hcount : content.count '\n' = before.length := (Nat.succ.inj hlength).symm
  have hall := Text.splitLines_append hlines hclosing
  rw [hcount] at hbounds hfirst hlater ⊢
  have hbehind : PieceLines ((number, number + before.length) :: spans)
      (number + before.length + 1) mode later := hlater.cons_span (Nat.lt_succ_self _)
  have htouching : ∀ other, number ≤ other → other ≤ number + before.length →
      touching ((number, number + before.length) :: spans) other = touching spans other + 1 :=
    fun other hle hle' => touching_cons_of_mem hle hle'
  have hstart := htouching number (Nat.le_refl _) (Nat.le_add_right _ _)
  -- Without a line feed the comment closes on the line where it starts. With one, that line is
  -- left open, the lines between lie inside, and the last one closes the comment.
  cases before with
  | nil =>
      have hfeed : '\n' ∉ content := List.count_eq_zero.mp hcount
      obtain ⟨rfl, _⟩ := List.cons.inj ((Text.splitLines_of_not_mem hfeed).symm.trans hlines)
      refine ⟨_, later, mode, @Text.splitLines_append_line ['/', '*'] _ _ _ (by decide) hall, ?_,
        hbehind⟩
      rw [hstart]
      exact .comment hcontent hfirst
  | cons line before =>
      rw [List.length_cons] at hbounds hfirst hbehind htouching hstart ⊢
      have hnone : ∀ other, other < number + (before.length + 1) → touching spans other = 0 :=
        fun other hlt => touching_eq_zero fun span hmem => Nat.lt_of_lt_of_le hlt (hbounds span hmem)
      refine ⟨_, before ++ (last ++ '*' :: '/' :: first) :: later, .inside .comment,
        @Text.splitLines_append_line ['/', '*'] _ _ _ (by decide) hall, ?_, ?_⟩
      · rw [hstart, hnone number (by omega)]
        exact .commentOpened (hopen line List.mem_cons_self)
      · refine pieceLines_inside (fun line hmem => hopen line (by simp [hmem])) ?_ ?_
        · intro other hle hlt
          rw [htouching other (by omega) (by omega), hnone other (by omega)]
        · rw [Nat.add_assoc, Nat.add_comm 1]
          refine .cons ?_ hbehind
          rw [htouching _ (by omega) (Nat.le_refl _)]
          exact .closing (hopen last (by simp)) hfirst

/-- The first line of a text of pieces is code, and the others are lines of pieces. -/
theorem Pieces.exists_lines (h : Pieces apart number text spans) :
    ∃ first later mode, text.splitLines = first :: later ∧
      CodeLine apart first (touching spans number) mode ∧
        PieceLines spans (number + 1) mode later := by
  induction h with
  | done => exact ⟨[], [], .default, rfl, .done, .nil⟩
  | @blank _ _ c text spans hc _ ih =>
      obtain ⟨first, later, mode, hsplit, hfirst, hlater⟩ := ih
      have hfeed : '\n' ∉ [c] := by rcases hc with rfl | rfl <;> decide
      exact ⟨c :: first, later, mode, Text.splitLines_append_line hfeed hsplit,
        .blank hc hfirst, hlater⟩
  | feed h ih =>
      obtain ⟨first, later, mode, hsplit, hfirst, hlater⟩ := ih
      have hnone := touching_eq_zero fun span hmem => Nat.lt_of_succ_le (h.le_start span hmem)
      refine ⟨[], first :: later, .default, ?_, ?_, .cons (.code hfirst) hlater⟩
      · rw [Text.splitLines_feed, hsplit]
      · rw [hnone]
        exact .done
  | item hitem _ ih =>
      obtain ⟨first, later, mode, hsplit, hfirst, hlater⟩ := ih
      refine ⟨_, later, mode, Text.splitLines_append_line hitem.isLine.1 hsplit, ?_,
        hlater.cons_span (Nat.lt_succ_self _)⟩
      rw [touching_cons_of_mem (Nat.le_refl _) (Nat.le_refl _)]
      exact .item hitem hfirst
  | comment hcontent hrest ih =>
      obtain ⟨first, later, mode, hsplit, hfirst, hlater⟩ := ih
      exact pieceLines_comment hcontent hrest.le_start hsplit hfirst hlater
  | @lineComment line content rest spans hcontent hrest _ ih =>
      obtain ⟨first, later, mode, hsplit, hfirst, hlater⟩ := ih
      -- A line comment goes on to the end of its line, so that nothing else follows there.
      have hfeed : '\n' ∉ '/' :: '/' :: content := by simpa using hcontent
      have hnil : first = [] := by
        rcases hrest with rfl | hrest
        · exact (List.cons.inj hsplit).1.symm
        · obtain ⟨more, rfl⟩ := List.head?_eq_some_iff.mp hrest
          rw [Text.splitLines_feed] at hsplit
          exact (List.cons.inj hsplit).1.symm
      subst hnil
      refine ⟨_, later, mode, Text.splitLines_append_line hfeed hsplit, ?_,
        hlater.cons_span (Nat.lt_succ_self _)⟩
      rw [touching_cons_of_mem (Nat.le_refl _) (Nat.le_refl _), List.append_nil]
      generalize touching spans line = count at hfirst
      cases hfirst
      exact .lineComment hcontent

/-- The lines of a text of pieces are lines of pieces. -/
theorem Pieces.splitLines (h : Pieces true number text spans) :
    PieceLines spans number .default text.splitLines := by
  obtain ⟨first, later, mode, hsplit, hfirst, hlater⟩ := h.exists_lines
  rw [hsplit]
  exact .cons (.code hfirst) hlater

/-! ## Tokens of a line -/

theorem Lexeme.modeAfter_eq_default {lexeme : Lexeme}
    (h : ∀ construct : Construct, lexeme.kind ≠ construct.startKind) :
    lexeme.modeAfter = .default := by
  cases lexeme with
  | simple kind => rfl
  | blockComment closure => cases closure with
    | closed => rfl
    | opened => exact absurd rfl (h .comment)
  | text closure => cases closure with
    | closed => rfl
    | opened => exact absurd rfl (h .text)
  | quotedIdentifier closure => cases closure with
    | closed => rfl
    | opened => exact absurd rfl (h .quotedIdentifier)

theorem Item.kind_ne_startKind {bond : Bond} {kind : Kind} (h : Item bond text kind)
    (construct : Construct) : kind ≠ construct.startKind := by
  have hfixed : ∀ entry ∈ fixedLexemes, ∀ construct ∈ [Construct.comment, .text, .quotedIdentifier],
      entry.2 ≠ construct.startKind := by decide
  have hreserved : ∀ entry ∈ reservedWords,
      ∀ construct ∈ [Construct.comment, .text, .quotedIdentifier],
        entry.2 ≠ construct.startKind := by decide
  have hmem : construct ∈ [Construct.comment, .text, .quotedIdentifier] := by
    cases construct <;> decide
  cases h with
  | reserved hword => exact hreserved _ hword construct hmem
  | tight hword _ => exact hfixed _ hword construct hmem
  | loose hword _ _ => exact hfixed _ hword construct hmem
  | _ => cases construct <;> decide

/-- Wherever it stands, the text is read as a number of lexemes, and leaves a mode behind. -/
def LexesTo (text : Text) (count : Nat) (mode : Mode) : Prop :=
  ∀ offset, ∃ found, lexemesFrom offset 0 text = (found, []) ∧ found.length = count ∧
    modeBehind found = mode

/-- A lexeme that closes what it opens stands in front of others. -/
theorem LexesTo.lexeme {word : Text} {lexeme : Lexeme} {count : Nat} (hne : word ≠ [])
    (hblank : ∀ c ∈ word.head?, isBlank c = false)
    (hfirst : firstLexeme? (word ++ rest) = some (lexeme, word.length))
    (hmode : lexeme.modeAfter = .default) (hrest : LexesTo rest count mode) :
    LexesTo (word ++ rest) (count + 1) mode := by
  obtain ⟨c, tail, rfl⟩ := List.exists_cons_of_ne_nil hne
  intro offset
  obtain ⟨found, hfound, hlength, hbehind⟩ := hrest (offset + Text.width (c :: tail))
  refine ⟨⟨lexeme, offset, offset + Text.width (c :: tail)⟩ :: found, ?_, ?_, ?_⟩
  · rw [List.cons_append, lexemesFrom_lexeme (hblank c rfl) hfirst, hfound]
  · rw [List.length_cons, hlength]
  · rw [modeBehind_cons hmode, hbehind]

/-- A lexeme takes all of the text. -/
theorem LexesTo.last {lexeme : Lexeme} (hne : text ≠ [])
    (hblank : ∀ c ∈ text.head?, isBlank c = false)
    (hfirst : firstLexeme? text = some (lexeme, text.length)) :
    LexesTo text 1 lexeme.modeAfter := by
  obtain ⟨c, tail, rfl⟩ := List.exists_cons_of_ne_nil hne
  exact fun offset => ⟨_, lexemesFrom_all (hblank c rfl) hfirst, rfl, rfl⟩

/-- Behind a piece stands a blank, if anything. -/
theorem CodeLine.follows {count : Nat} (h : CodeLine false line count mode) (bond : Bond) :
    Follows bond line := by
  cases h with
  | done => exact fun c hc => by cases hc
  | @blank _ c line _ _ hc _ =>
      have hblank : AreBlanks [c] := by simpa [AreBlanks] using hc
      exact hblank.follows (List.cons_ne_nil _ _) line

/-- A line of code leaves a comment open only behind a piece. -/
theorem CodeLine.mode_eq {count : Nat} (h : CodeLine apart line count mode) :
    mode = .default ∨ mode = .inside .comment ∧ 0 < count := by
  induction h with
  | done => exact Or.inl rfl
  | blank _ _ ih => exact ih
  | item _ _ ih => exact ih.imp_right fun ⟨hmode, _⟩ => ⟨hmode, Nat.succ_pos _⟩
  | comment _ _ ih => exact ih.imp_right fun ⟨hmode, _⟩ => ⟨hmode, Nat.succ_pos _⟩
  | commentOpened _ => exact Or.inr ⟨rfl, Nat.one_pos⟩
  | lineComment _ => exact Or.inl rfl

theorem CodeLine.lexesTo {count : Nat} (h : CodeLine apart line count mode) :
    LexesTo line count mode := by
  have hslash : ∀ c ∈ some '/', isBlank c = false := fun c hc => by cases hc; decide
  induction h with
  | done => exact fun offset => ⟨[], rfl, rfl, rfl⟩
  | @blank _ c line _ _ hc _ ih =>
      have hblank : isBlank c = true := by rcases hc with rfl | rfl <;> rfl
      intro offset
      rw [lexemesFrom_blank hblank]
      exact ih _
  | item hitem hrest ih =>
      obtain ⟨lexeme, hfirst, rfl⟩ := hitem.firstLexeme? (hrest.follows _)
      have hmode := Lexeme.modeAfter_eq_default hitem.kind_ne_startKind
      exact ih.lexeme hitem.ne_nil hitem.isBlank_head hfirst hmode
  | @comment content rest _ _ hcontent _ ih =>
      have hfirst := firstLexeme?_comment (commentContent?_of_unclosed hcontent rest)
      have hsplit : '/' :: '*' :: (content ++ '*' :: '/' :: rest) =
          '/' :: '*' :: (content ++ ['*', '/']) ++ rest := by simp
      rw [hsplit] at hfirst ⊢
      exact ih.lexeme (List.cons_ne_nil _ _) hslash hfirst rfl
  | commentOpened hcontent =>
      have hfirst := firstLexeme?_comment_opened (commentContent?_eq_none_iff.mpr hcontent)
      exact LexesTo.last (List.cons_ne_nil _ _) hslash hfirst
  | lineComment hcontent =>
      exact LexesTo.last (List.cons_ne_nil _ _) hslash (firstLexeme?_lineComment hcontent)

theorem lexRest_of_lexesTo {count : Nat} (h : LexesTo rest count mode) (text : Text)
    (number : Nat) (done : List Token) : ∃ tokens,
      lexRest (text ++ rest) number text.length done = .ok ⟨done ++ tokens, mode⟩ ∧
        tokens.length = count := by
  obtain ⟨found, hfound, rfl, rfl⟩ := h text.width
  refine ⟨tokensOf found, ?_, List.length_map _⟩
  rw [lexRest, List.take_left, List.drop_left, hfound]
  rfl

/-- The reference lexer gives one token for each piece on a line. -/
theorem PieceLine.lexLine {count : Nat} {mode' : Mode} (h : PieceLine mode line count mode')
    (number : Nat) : ∃ tokens, lexLine line mode number = .ok ⟨tokens, mode'⟩ ∧
      tokens.length = count := by
  cases h with
  | code hcode => exact lexRest_of_lexesTo hcode.lexesTo [] number []
  | inside hline =>
      have hcloser : Construct.comment.closer? line = none := by
        rw [Construct.closer?, commentContent?_eq_none_iff.mpr hline]
        rfl
      refine ⟨[⟨.multilineCommentContent, 0, line.width⟩], ?_, rfl⟩
      rw [Lexing.lexLine, hcloser]
      rfl
  | @closing content rest count _ hcontent hrest =>
      have hlength : content.length + 2 = (content ++ ['*', '/']).length := by simp
      have hsplit : content ++ '*' :: '/' :: rest = (content ++ ['*', '/']) ++ rest := by simp
      have hcloser : Construct.comment.closer? (content ++ '*' :: '/' :: rest) =
          some (content ++ ['*', '/']).length := by
        rw [Construct.closer?, commentContent?_of_unclosed hcontent, Option.map_some, hlength]
      rw [Lexing.lexLine, hcloser]
      dsimp only
      rw [hsplit]
      obtain ⟨tokens, hlex, rfl⟩ := lexRest_of_lexesTo hrest.lexesTo _ number _
      refine ⟨_, hlex, ?_⟩
      rw [List.length_append, List.length_singleton, Nat.add_comm]

end TokenConcord.Lexing
