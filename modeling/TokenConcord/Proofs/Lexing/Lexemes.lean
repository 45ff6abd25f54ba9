import TokenConcord.Lexing.Line
import TokenConcord.Proofs.Lexing.Characters

/-!
# One lexeme after another

The lexemes of a text begin with the first one and go on with those of the text behind it. A
blank has no part in any of them.
-/

namespace TokenConcord.Lexing

variable {offset : Nat} {u rest : Text}

theorem countWhile_all {test : Char → Bool} (hu : ∀ c ∈ u, test c = true) (rest : Text) :
    countWhile test (u ++ rest) = u.length + countWhile test rest := by
  rw [countWhile, List.takeWhile_append_of_pos hu, List.length_append]
  rfl

theorem countWhile_append {test : Char → Bool} (hu : ∀ c ∈ u, test c = true)
    (hrest : ∀ c, rest.head? = some c → test c = false) :
    countWhile test (u ++ rest) = u.length := by
  have hnone : countWhile test rest = 0 := by
    cases rest with
    | nil => rfl
    | cons c rest => simp [countWhile, hrest c rfl]
  rw [countWhile_all hu, hnone, Nat.add_zero]

/-- Characters that belong to a lexeme found before are passed over. -/
theorem lexemesFrom_skip (offset : Nat) (u rest : Text) :
    lexemesFrom offset u.length (u ++ rest) = lexemesFrom (offset + u.width) 0 rest := by
  induction u generalizing offset with
  | nil => rfl
  | cons c u ih =>
      rw [List.cons_append, List.length_cons, lexemesFrom, ih, Text.width_cons, Nat.add_assoc]

theorem lexemesFrom_blank {c : Char} (h : isBlank c = true) (offset : Nat) (rest : Text) :
    lexemesFrom offset 0 (c :: rest) = lexemesFrom (offset + c.utf8Size) 0 rest := by
  rw [lexemesFrom]
  dsimp only
  rw [if_pos h]

/-- A lexeme stands before the lexemes of the text behind it. -/
theorem lexemesFrom_lexeme {c : Char} {lexeme : Lexeme} (hblank : isBlank c = false)
    (hfirst : firstLexeme? (c :: (u ++ rest)) = some (lexeme, (c :: u).length)) :
    lexemesFrom offset 0 (c :: (u ++ rest)) =
      let later := lexemesFrom (offset + Text.width (c :: u)) 0 rest
      (⟨lexeme, offset, offset + Text.width (c :: u)⟩ :: later.1, later.2) := by
  have htake : (c :: (u ++ rest)).take (c :: u).length = c :: u := @List.take_left _ (c :: u) rest
  rw [lexemesFrom]
  dsimp only
  rw [if_neg (by simp [hblank]), hfirst]
  dsimp only
  rw [htake, List.length_cons, Nat.add_sub_cancel, lexemesFrom_skip, Text.width_cons,
    Nat.add_assoc]

theorem lexemesFrom_all {c : Char} {lexeme : Lexeme} (hblank : isBlank c = false)
    (hfirst : firstLexeme? (c :: u) = some (lexeme, (c :: u).length)) :
    lexemesFrom offset 0 (c :: u) = ([⟨lexeme, offset, offset + Text.width (c :: u)⟩], []) := by
  have h := @lexemesFrom_lexeme offset u [] c lexeme hblank (by rwa [List.append_nil])
  rwa [List.append_nil] at h

theorem lexemesFrom_none {c : Char} (hblank : isBlank c = false)
    (hfirst : firstLexeme? (c :: rest) = none) :
    lexemesFrom offset 0 (c :: rest) = ([], c :: rest) := by
  rw [lexemesFrom]
  dsimp only
  rw [if_neg (by simp [hblank]), hfirst]

/-! ## Where constructs open -/

/-- What opens a text literal, a quoted identifier, a line comment and a block comment. -/
def openers : List Text := [['"'], ['#', '"'], ['/', '/'], ['/', '*']]

/-- A construct with delimiters or a line comment opens where the text begins. -/
def Opens (text : Text) : Prop := ∃ opener ∈ openers, opener <+: text

instance : DecidablePred Opens := fun text =>
  inferInstanceAs (Decidable (∃ opener ∈ openers, opener <+: text))

theorem Quiet.not_opens {c : Char} (h : Quiet c) (text : Text) : ¬ Opens (c :: text) := by
  obtain ⟨hquote, hhash, hslash⟩ := h
  rintro ⟨opener, hmem, rest, hrest⟩
  simp only [openers, List.mem_cons, List.not_mem_nil, or_false] at hmem
  rcases hmem with rfl | rfl | rfl | rfl
  · exact hquote (List.cons.inj hrest).1.symm
  · exact hhash (List.cons.inj hrest).1.symm
  · exact hslash (List.cons.inj hrest).1.symm
  · exact hslash (List.cons.inj hrest).1.symm

/-- Where no construct opens, words, numbers and fixed lexemes are left. -/
theorem firstLexeme?_plain {c : Char} {text : Text} (h : ¬ Opens (c :: text)) :
    firstLexeme? (c :: text) =
      if isIdentifierStart c then
        let length := 1 + identifierTail text
        some (.simple (wordKind ((c :: text).take length) ((c :: text).drop length)), length)
      else if hexLength (c :: text) ≠ 0 then some (.simple .hexLiteral, hexLength (c :: text))
      else if numberLength (c :: text) ≠ 0 then
        some (.simple .numericLiteral, numberLength (c :: text))
      else fixedLexeme? (c :: text) := by
  unfold firstLexeme?
  split
  next heq => cases heq
  next inner heq => exact absurd ⟨['"'], by decide, inner, heq.symm⟩ h
  next inner heq => exact absurd ⟨['#', '"'], by decide, inner, heq.symm⟩ h
  next inner heq => exact absurd ⟨['/', '*'], by decide, inner, heq.symm⟩ h
  next inner heq => exact absurd ⟨['/', '/'], by decide, inner, heq.symm⟩ h
  next heq =>
    cases heq
    rfl

theorem firstLexeme?_lineComment (h : '\n' ∉ u) :
    firstLexeme? ('/' :: '/' :: u) = some (.simple .lineComment, ('/' :: '/' :: u).length) := by
  have hall : ∀ c ∈ u, (c != '\n') = true := fun c hmem =>
    bne_iff_ne.mpr fun hc => h (hc ▸ hmem)
  have hcount := @countWhile_append u [] _ hall fun c hc => by cases hc
  rw [List.append_nil] at hcount
  rw [firstLexeme?, hcount, List.length_cons, List.length_cons, Nat.add_comm]

/-! ## Modes -/

/-- Mode that a line with these lexemes leaves behind. -/
def modeBehind (found : List LexemeSpan) : Mode :=
  (found.getLast?.map (·.lexeme.modeAfter)).getD .default

theorem modeBehind_cons {span : LexemeSpan} (h : span.lexeme.modeAfter = .default)
    (later : List LexemeSpan) : modeBehind (span :: later) = modeBehind later := by
  cases later with
  | nil => exact h
  | cons next later => rw [modeBehind, List.getLast?_cons_cons, modeBehind]

/-- A line behind its first characters gives a mode only if all of the rest is lexemes. -/
theorem lexRest_ok {number : Nat} {done : List Token} {lexed : LexedLine}
    (h : lexRest (u ++ rest) number u.length done = .ok lexed) :
    (lexemesFrom u.width 0 rest).2 = [] ∧
      lexed.mode = modeBehind (lexemesFrom u.width 0 rest).1 := by
  unfold lexRest at h
  rw [List.take_left, List.drop_left] at h
  cases hfound : lexemesFrom u.width 0 rest with
  | mk found unread =>
      rw [hfound] at h
      cases unread with
      | nil =>
          cases h
          exact ⟨rfl, rfl⟩
      | cons c unread => cases h

end TokenConcord.Lexing
