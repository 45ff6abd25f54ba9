import TokenConcord.Proofs.Lexing.Delimited
import TokenConcord.Proofs.Lexing.Lexemes

/-!
# What code leaves open

A line of code is outlined by the constructs that open in it: text literals, quoted identifiers
and comments. Everything else consists of characters at which none of them opens. The outline
says in which mode a line ends. All lexemes but those constructs are silent about it, since no
construct opens behind their first character.
-/

namespace TokenConcord.Lexing

/-! ## Outlines -/

/-- Code, with the mode that it leaves behind at its end. -/
inductive Leaves : Text → Mode → Prop
  | done : Leaves [] .default
  | char {c : Char} {text : Text} {mode : Mode} :
      ¬ Opens (c :: text) → Leaves text mode → Leaves (c :: text) mode
  | lineComment {content : Text} : '\n' ∉ content → Leaves ('/' :: '/' :: content) .default
  | text {content rest : Text} {mode : Mode} :
      Quoted content → ¬ QuoteNext rest → Leaves rest mode →
        Leaves ('"' :: (content ++ '"' :: rest)) mode
  | textOpened {content : Text} : Quoted content → Leaves ('"' :: content) (.inside .text)
  | quotedIdentifier {content rest : Text} {mode : Mode} :
      Quoted content → ¬ QuoteNext rest → Leaves rest mode →
        Leaves ('#' :: '"' :: (content ++ '"' :: rest)) mode
  | quotedIdentifierOpened {content : Text} :
      Quoted content → Leaves ('#' :: '"' :: content) (.inside .quotedIdentifier)
  | comment {content rest : Text} {mode : Mode} :
      commentContent? (content ++ '*' :: '/' :: rest) = some content → Leaves rest mode →
        Leaves ('/' :: '*' :: (content ++ '*' :: '/' :: rest)) mode
  | commentOpened {content : Text} :
      commentContent? content = none → Leaves ('/' :: '*' :: content) (.inside .comment)

/-- Every text without line feeds has an outline. -/
theorem exists_leaves {text : Text} (h : '\n' ∉ text) : ∃ mode, Leaves text mode := by
  induction hlength : text.length using Nat.strongRecOn generalizing text with
  | ind length ih =>
      subst hlength
      have hsuffix : ∀ front rest : Text, text = front ++ rest → front ≠ [] →
          ∃ mode, Leaves rest mode := by
        rintro front rest rfl hne
        refine ih rest.length ?_ (fun hmem => h (List.mem_append_right _ hmem)) rfl
        have hpos := List.length_pos_iff.mpr hne
        rw [List.length_append]
        omega
      by_cases hopens : Opens text
      · obtain ⟨opener, hmem, inner, rfl⟩ := hopens
        simp only [openers, List.mem_cons, List.not_mem_nil, or_false] at hmem
        rcases hmem with rfl | rfl | rfl | rfl
        · cases hcontent : quotedContent? inner with
          | none => exact ⟨_, .textOpened (quotedContent?_eq_none hcontent)⟩
          | some content =>
              obtain ⟨hquoted, rest, rfl, hrest⟩ := quotedContent?_eq_some hcontent
              obtain ⟨mode, hmode⟩ := hsuffix ('"' :: content ++ ['"']) rest (by simp)
                (List.cons_ne_nil _ _)
              exact ⟨mode, .text hquoted hrest hmode⟩
        · cases hcontent : quotedContent? inner with
          | none => exact ⟨_, .quotedIdentifierOpened (quotedContent?_eq_none hcontent)⟩
          | some content =>
              obtain ⟨hquoted, rest, rfl, hrest⟩ := quotedContent?_eq_some hcontent
              obtain ⟨mode, hmode⟩ := hsuffix ('#' :: '"' :: content ++ ['"']) rest
                (by simp) (List.cons_ne_nil _ _)
              exact ⟨mode, .quotedIdentifier hquoted hrest hmode⟩
        · exact ⟨_, .lineComment fun hmem => h (List.mem_append_right _ hmem)⟩
        · cases hcontent : commentContent? inner with
          | none => exact ⟨_, .commentOpened hcontent⟩
          | some content =>
              obtain ⟨rest, rfl⟩ := commentContent?_eq_some hcontent
              obtain ⟨mode, hmode⟩ := hsuffix ('/' :: '*' :: content ++ ['*', '/']) rest
                (by simp) (List.cons_ne_nil _ _)
              exact ⟨mode, .comment hcontent hmode⟩
      · cases text with
        | nil => exact ⟨_, .done⟩
        | cons c text =>
            obtain ⟨mode, hmode⟩ := hsuffix [c] text rfl (List.cons_ne_nil _ _)
            exact ⟨mode, .char hopens hmode⟩

/-! ## Characters at which nothing opens -/

theorem Leaves.of_char {c : Char} {text : Text} {mode : Mode} (h : Leaves (c :: text) mode)
    (hopens : ¬ Opens (c :: text)) : Leaves text mode := by
  cases h with
  | char _ h => exact h
  | lineComment => exact absurd ⟨['/', '/'], by decide, _, rfl⟩ hopens
  | text => exact absurd ⟨['"'], by decide, _, rfl⟩ hopens
  | textOpened => exact absurd ⟨['"'], by decide, _, rfl⟩ hopens
  | quotedIdentifier => exact absurd ⟨['#', '"'], by decide, _, rfl⟩ hopens
  | quotedIdentifierOpened => exact absurd ⟨['#', '"'], by decide, _, rfl⟩ hopens
  | comment => exact absurd ⟨['/', '*'], by decide, _, rfl⟩ hopens
  | commentOpened => exact absurd ⟨['/', '*'], by decide, _, rfl⟩ hopens

/-- Behind a lexeme in which nothing opens the outline goes on. -/
theorem Leaves.behind {c : Char} {tail rest : Text} {mode : Mode}
    (h : Leaves (c :: (tail ++ rest)) mode) (hopens : ¬ Opens (c :: (tail ++ rest)))
    (htail : ∀ d ∈ tail, Quiet d) : Leaves rest mode := by
  induction tail generalizing c with
  | nil => exact h.of_char hopens
  | cons d tail ih =>
      obtain ⟨hd, htail⟩ := List.forall_mem_cons.mp htail
      exact ih (h.of_char hopens) (hd.not_opens _) htail

/-! ## Characters of lexemes -/

/-- The text has that many characters and is quiet up to there. -/
structure QuietUpTo (count : Nat) (text : Text) : Prop where
  le : count ≤ text.length
  quiet : ∀ c ∈ text.take count, Quiet c

namespace QuietUpTo

theorem zero (text : Text) : QuietUpTo 0 text :=
  ⟨Nat.zero_le _, fun _ hmem => absurd hmem List.not_mem_nil⟩

theorem cons {c : Char} {count : Nat} {text : Text} (h : QuietUpTo count text) (hc : Quiet c) :
    QuietUpTo (count + 1) (c :: text) :=
  ⟨Nat.succ_le_succ h.le, List.forall_mem_cons.mpr ⟨hc, h.quiet⟩⟩

theorem add {m n : Nat} {text : Text} (hm : QuietUpTo m text) (hn : QuietUpTo n (text.drop m)) :
    QuietUpTo (m + n) text := by
  have hle := hn.le
  rw [List.length_drop] at hle
  have hm_le := hm.le
  refine ⟨by omega, fun c hmem => ?_⟩
  rw [List.take_add] at hmem
  exact (List.mem_append.mp hmem).elim (hm.quiet c) (hn.quiet c)

theorem countWhile {test : Char → Bool} (h : ∀ {c}, test c = true → Quiet c) (text : Text) :
    QuietUpTo (countWhile test text) text := by
  induction text with
  | nil => exact zero []
  | cons c text ih =>
      cases hc : test c with
      | true =>
          have hcount : Lexing.countWhile test (c :: text) = Lexing.countWhile test text + 1 := by
            simp [Lexing.countWhile, hc]
          rw [hcount]
          exact ih.cons (h hc)
      | false =>
          have hcount : Lexing.countWhile test (c :: text) = 0 := by
            simp [Lexing.countWhile, hc]
          rw [hcount]
          exact zero _

theorem sign (c : Char) (text : Text) :
    QuietUpTo (if c = '+' ∨ c = '-' then 1 else 0) (c :: text) := by
  split
  next hc =>
    have hsign : Quiet c := by rcases hc with rfl | rfl <;> decide
    exact (zero text).cons hsign
  next => exact zero _

theorem exponentLength (text : Text) : QuietUpTo (exponentLength text) text := by
  rcases text with _ | ⟨e, _ | ⟨c, text⟩⟩
  · exact zero []
  · have hnone : Lexing.exponentLength [e] = 0 := by
      simp [Lexing.exponentLength, Lexing.countWhile]
    rw [hnone]
    exact zero _
  · unfold Lexing.exponentLength
    dsimp only
    split
    next he =>
      have hmark : Quiet e := by rcases he with rfl | rfl <;> decide
      have hnumber := (sign c text).add (countWhile quiet_of_isDigit _)
      by_cases hdigits : Lexing.countWhile Char.isDigit
          ((c :: text).drop (if c = '+' ∨ c = '-' then 1 else 0)) = 0
      · rw [if_pos hdigits]
        exact zero _
      · rw [if_neg hdigits, Nat.add_assoc, Nat.add_comm 1]
        exact hnumber.cons hmark
    next => exact zero _

theorem fractionLength (text : Text) : QuietUpTo (fractionLength text) text := by
  cases text with
  | nil => exact zero []
  | cons c text =>
      rw [Lexing.fractionLength]
      split
      next hc =>
        subst hc
        dsimp only
        split
        next => exact zero _
        next =>
          rw [Nat.add_comm]
          exact (countWhile quiet_of_isDigit text).cons (by decide)
      next => exact zero _

theorem numberLength (text : Text) : QuietUpTo (numberLength text) text := by
  have hpart := (countWhile quiet_of_isDigit text).add (fractionLength _)
  unfold Lexing.numberLength
  dsimp only
  split
  next => exact zero _
  next => exact hpart.add (exponentLength _)

theorem hexLength (text : Text) : QuietUpTo (hexLength text) text := by
  unfold Lexing.hexLength
  split
  next x text =>
    split
    next hx =>
      have hmark : Quiet x := by rcases hx with rfl | rfl <;> decide
      dsimp only
      split
      next => exact zero _
      next =>
        rw [Nat.add_comm]
        exact ((countWhile quiet_of_isHexDigit text).cons hmark).cons (by decide)
    next => exact zero _
  next => exact zero _

theorem identifierTail (text : Text) : QuietUpTo (identifierTail text) text := by
  fun_induction Lexing.identifierTail text with
  | case1 => exact zero []
  | case2 c text hpart ih => exact ih.cons (quiet_of_isIdentifierPart hpart)
  | case3 d more hstart hpoint ih =>
      exact (ih.cons (quiet_of_isIdentifierStart hstart)).cons (by decide)
  | _ => exact zero _

theorem tail {c : Char} {count : Nat} {text : Text} (h : QuietUpTo (count + 1) (c :: text)) :
    QuietUpTo count text :=
  ⟨Nat.le_of_succ_le_succ h.le, fun d hmem => h.quiet d (List.mem_cons_of_mem _ hmem)⟩

end QuietUpTo

/-- At most the first character of a fixed lexeme opens anything. -/
theorem quiet_fixedLexemes :
    ∀ entry ∈ fixedLexemes, entry.1.toList ≠ [] ∧ ∀ d ∈ entry.1.toList.tail, Quiet d := by
  decide

theorem fixedLexeme?_quiet {c : Char} {text : Text} {found : Lexeme × Nat}
    (h : fixedLexeme? (c :: text) = some found) :
    (∃ kind, found.1 = .simple kind) ∧ ∃ count, found.2 = count + 1 ∧ QuietUpTo count text := by
  obtain ⟨⟨word, kind⟩, hfind, rfl⟩ := Option.map_eq_some_iff.mp h
  have hprefix : word.toList <+: c :: text := by simpa using List.find?_some hfind
  obtain ⟨hne, hquiet⟩ := quiet_fixedLexemes _ (List.mem_of_find?_eq_some hfind)
  dsimp only at hne hquiet ⊢
  refine ⟨⟨kind, rfl⟩, ?_⟩
  obtain ⟨rest, hrest⟩ := hprefix
  generalize word.toList = letters at hne hquiet hrest ⊢
  cases letters with
  | nil => exact absurd rfl hne
  | cons d letters =>
      rw [List.cons_append] at hrest
      obtain ⟨rfl, rfl⟩ := List.cons.inj hrest
      refine ⟨letters.length, rfl, ?_, ?_⟩
      · simp
      · rw [List.take_left]
        exact hquiet

/-- Where no construct opens, the first lexeme is none, and none opens behind its first
character. -/
theorem firstLexeme?_quiet {c : Char} {text : Text} {found : Lexeme × Nat}
    (hopens : ¬ Opens (c :: text)) (h : firstLexeme? (c :: text) = some found) :
    (∃ kind, found.1 = .simple kind) ∧ ∃ count, found.2 = count + 1 ∧ QuietUpTo count text := by
  rw [firstLexeme?_plain hopens] at h
  split at h
  next =>
    cases h
    exact ⟨⟨_, rfl⟩, identifierTail text, Nat.add_comm .., .identifierTail text⟩
  next =>
    split at h
    next hlength =>
      cases h
      obtain ⟨count, hcount⟩ := Nat.exists_eq_succ_of_ne_zero hlength
      have hquiet := QuietUpTo.hexLength (c :: text)
      rw [hcount] at hquiet
      exact ⟨⟨_, rfl⟩, count, hcount, hquiet.tail⟩
    next =>
      split at h
      next hlength =>
        cases h
        obtain ⟨count, hcount⟩ := Nat.exists_eq_succ_of_ne_zero hlength
        have hquiet := QuietUpTo.numberLength (c :: text)
        rw [hcount] at hquiet
        exact ⟨⟨_, rfl⟩, count, hcount, hquiet.tail⟩
      next => exact fixedLexeme?_quiet h

/-! ## Lexing along an outline -/

/-- A text that is lexed to its end leaves the mode behind that its outline says. -/
theorem Leaves.modeBehind {text : Text} {mode : Mode} {offset : Nat} (h : Leaves text mode)
    (hread : (lexemesFrom offset 0 text).2 = []) :
    modeBehind (lexemesFrom offset 0 text).1 = mode := by
  induction hlength : text.length using Nat.strongRecOn generalizing text offset with
  | ind length ih =>
      subst hlength
      -- Behind a first lexeme that leaves the default mode the rest of the text decides.
      have hbehind : ∀ c u rest lexeme, text = c :: (u ++ rest) → isBlank c = false →
          firstLexeme? text = some (lexeme, (c :: u).length) → lexeme.modeAfter = .default →
          Leaves rest mode → Lexing.modeBehind (lexemesFrom offset 0 text).1 = mode := by
        rintro c u rest lexeme rfl hblank hfirst hafter hrest
        rw [lexemesFrom_lexeme hblank hfirst] at hread ⊢
        rw [modeBehind_cons hafter]
        refine ih rest.length ?_ hrest hread rfl
        rw [List.length_cons, List.length_append]
        omega
      cases h with
      | done => rfl
      | @char c text _ hopens hrest =>
          cases hblank : isBlank c with
          | true =>
              rw [lexemesFrom_blank hblank] at hread ⊢
              exact ih text.length (Nat.lt_succ_self _) hrest hread rfl
          | false =>
              cases hfirst : firstLexeme? (c :: text) with
              | none =>
                  rw [lexemesFrom_none hblank hfirst] at hread
                  cases hread
              | some found =>
                  obtain ⟨⟨kind, hkind⟩, count, hcount, hquiet⟩ := firstLexeme?_quiet hopens hfirst
                  have hsplit := (List.take_append_drop count text).symm
                  refine hbehind c (text.take count) (text.drop count) found.1 ?_ hblank ?_ ?_ ?_
                  · rw [← hsplit]
                  · rw [hfirst, List.length_cons, List.length_take, Nat.min_eq_left hquiet.le,
                      ← hcount]
                  · rw [hkind]
                    rfl
                  · refine @Leaves.behind c (text.take count) (text.drop count) mode ?_ ?_ hquiet.quiet
                    · rw [← hsplit]
                      exact hrest.char hopens
                    · rwa [← hsplit]
      | lineComment hcontent =>
          rw [lexemesFrom_all (by decide) (firstLexeme?_lineComment hcontent)]
          rfl
      | text hcontent hquote hrest =>
          have hfirst := firstLexeme?_text hcontent hquote
          exact hbehind '"' (_ ++ ['"']) _ _ (by simp) (by decide) hfirst rfl hrest
      | textOpened hcontent =>
          rw [lexemesFrom_all (by decide) (firstLexeme?_text_opened hcontent)]
          rfl
      | quotedIdentifier hcontent hquote hrest =>
          have hfirst := firstLexeme?_quotedIdentifier hcontent hquote
          exact hbehind '#' ('"' :: (_ ++ ['"'])) _ _ (by simp) (by decide) hfirst rfl hrest
      | quotedIdentifierOpened hcontent =>
          rw [lexemesFrom_all (by decide) (firstLexeme?_quotedIdentifier_opened hcontent)]
          rfl
      | comment hcontent hrest =>
          have hfirst := firstLexeme?_comment hcontent
          exact hbehind '/' ('*' :: (_ ++ ['*', '/'])) _ _ (by simp) (by decide) hfirst rfl hrest
      | commentOpened hcontent =>
          rw [lexemesFrom_all (by decide) (firstLexeme?_comment_opened hcontent)]
          rfl

/-- A line of code leaves the mode behind that its outline says. -/
theorem lexLine_code {line : Text} {mode : Mode} {number : Nat} {lexed : LexedLine}
    (h : Leaves line mode) (hlex : lexLine line .default number = .ok lexed) :
    lexed.mode = mode := by
  obtain ⟨hread, hmode⟩ := @lexRest_ok [] line number [] lexed hlex
  rw [hmode, h.modeBehind hread]

/-- A line that starts inside a comment and has no closer stays inside. -/
theorem lexLine_comment_opened {line : Text} {number : Nat} {lexed : LexedLine}
    (h : commentContent? line = none)
    (hlex : lexLine line (.inside .comment) number = .ok lexed) :
    lexed.mode = .inside .comment := by
  simp only [lexLine, Construct.closer?, h, Option.map_none] at hlex
  cases hlex
  rfl

/-- A line that starts inside a comment goes on as code behind the closer. -/
theorem lexLine_comment_closed {content rest : Text} {mode : Mode} {number : Nat}
    {lexed : LexedLine} (hrest : Leaves rest mode)
    (h : commentContent? (content ++ '*' :: '/' :: rest) = some content)
    (hlex : lexLine (content ++ '*' :: '/' :: rest) (.inside .comment) number = .ok lexed) :
    lexed.mode = mode := by
  simp only [lexLine, Construct.closer?, h, Option.map_some] at hlex
  have hsplit : content ++ '*' :: '/' :: rest = (content ++ ['*', '/']) ++ rest := by simp
  have hlength : content.length + 2 = (content ++ ['*', '/']).length := by simp
  rw [hsplit, hlength] at hlex
  obtain ⟨hread, hmode⟩ := lexRest_ok hlex
  rw [hmode, hrest.modeBehind hread]

end TokenConcord.Lexing
