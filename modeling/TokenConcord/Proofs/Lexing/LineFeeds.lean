import TokenConcord.Proofs.Lexing.Gaps

/-!
# Reading over a line feed

A text is read over a line feed only inside a construct that the line before it leaves open.
Behind the line feed the search for the closer goes on, and behind the closer reading does.
-/

namespace TokenConcord.Lexing

variable {construct : Construct} {line content rest text : Text} {offset start : Nat}

theorem feed_mem_gaps : '\n' ∈ gaps := by decide

/-- A first lexeme that leaves nothing open is the same with a line feed behind the line. -/
theorem firstLexeme?_feed
    (hwhole : ∀ lexeme length, firstLexeme? line = some (lexeme, length) → lexeme.Whole)
    (rest : Text) : firstLexeme? (line ++ '\n' :: rest) = firstLexeme? line :=
  firstLexeme?_whole feed_mem_gaps (fun _ => rfl) hwhole rest

/-- At a line feed in code no lexeme starts. -/
theorem firstLexeme?_feed_none (rest : Text) : firstLexeme? ('\n' :: rest) = none :=
  @firstLexeme?_feed [] (fun lexeme length h => by cases h) rest

/-- A line comment goes on to the next line feed. -/
theorem split_lineComment {word : Text} {lexeme : Lexeme}
    (h : firstLexeme? (word ++ rest) = some (lexeme, word.length))
    (hcomment : ['/', '/'] <+: word ++ rest) :
    lexeme = .simple .lineComment ∧ (∃ content, word = '/' :: '/' :: content ∧ '\n' ∉ content) ∧
      ∀ c ∈ rest.head?, c = '\n' := by
  obtain ⟨inner, hinner⟩ := hcomment
  have hline : word ++ rest = '/' :: '/' :: inner := hinner.symm
  rw [hline, firstLexeme?, Option.some.injEq, Prod.mk.injEq] at h
  obtain ⟨hlexeme, hlength⟩ := h
  have hsplit : word ++ rest = '/' :: '/' :: inner.takeWhile (· != '\n') ++
      inner.dropWhile (· != '\n') := by
    rw [hline, List.cons_append, List.cons_append, List.takeWhile_append_dropWhile]
  obtain ⟨hword, hrest⟩ := List.append_inj hsplit (by
    rw [← hlength, List.length_cons, List.length_cons, countWhile, Nat.add_comm])
  refine ⟨hlexeme.symm, ⟨_, hword, fun hmem => ?_⟩, fun c hc => ?_⟩
  · have hpass := List.all_eq_true.mp List.all_takeWhile _ hmem
    cases hpass
  · have hstop := List.head?_dropWhile_not (· != '\n') inner
    rw [← hrest, Option.mem_def.mp hc] at hstop
    simpa using hstop

theorem Construct.firstLexeme?_ne_simple {inner : Text} {kind : Kind} {length : Nat} :
    firstLexeme? (construct.opener ++ inner) ≠ some (.simple kind, length) := by
  intro h
  rw [firstLexeme?_opener] at h
  unfold delimited at h
  have hlexeme : ∃ closure, construct.lexeme closure = .simple kind := by
    split at h
    · exact ⟨.closed, congrArg Prod.fst (Option.some.inj h)⟩
    · exact ⟨.opened, congrArg Prod.fst (Option.some.inj h)⟩
  obtain ⟨closure, hclosure⟩ := hlexeme
  have hconstruct := construct.construct?_lexeme closure
  rw [hclosure] at hconstruct
  cases hconstruct

/-- A word without quotes and comments has no line feed in it. -/
theorem not_feed_mem_of_simple {word : Text} {kind : Kind}
    (h : firstLexeme? (word ++ rest) = some (.simple kind, word.length)) : '\n' ∉ word := by
  intro hmem
  obtain ⟨line, more, rfl, -⟩ := List.eq_append_cons_of_mem hmem
  rw [List.append_assoc, List.cons_append] at h
  by_cases hwhole : ∀ lexeme length, firstLexeme? line = some (lexeme, length) → lexeme.Whole
  · rw [firstLexeme?_feed hwhole] at h
    obtain ⟨word, behind, hline, hlength, -⟩ := firstLexeme?_starts h
    have hle : word.length ≤ line.length := by
      rw [hline, List.length_append]
      exact Nat.le_add_right _ _
    rw [List.length_append, List.length_cons] at hlength
    omega
  · -- The line opens a construct, and so does any text that begins with the line.
    obtain ⟨lexeme, length, hfirst, hnot⟩ :
        ∃ lexeme length, firstLexeme? line = some (lexeme, length) ∧ ¬ lexeme.Whole := by
      simpa only [not_forall, exists_prop] using hwhole
    obtain ⟨word, behind, rfl, -, hstarts⟩ := firstLexeme?_starts hfirst
    cases hstarts with
    | simple _ hkind _ => exact hnot (Lexeme.whole_simple hkind)
    | closed => exact hnot (Construct.whole_closed _)
    | opened =>
        rw [List.append_nil, List.append_assoc] at h
        exact Construct.firstLexeme?_ne_simple h

/-! ## Inside a construct -/

/-- The lexemes of a construct that opened at an offset and of what follows it, from another
offset inside it on. -/
def Construct.resume (construct : Construct) (start offset : Nat) (text : Text) :
    List LexemeSpan × Text :=
  match construct.content? text with
  | none => ([⟨construct.lexeme .opened, start, offset + text.width⟩], [])
  | some content =>
      let closed := content ++ construct.closing
      let later := lexemesFrom (offset + closed.width) 0 (text.drop closed.length)
      (⟨construct.lexeme .closed, start, offset + closed.width⟩ :: later.1, later.2)

namespace Construct

theorem resume_some (h : construct.content? (content ++ (construct.closing ++ rest)) = some content)
    (start offset : Nat) :
    construct.resume start offset (content ++ (construct.closing ++ rest)) =
      let stop := offset + (content ++ construct.closing).width
      let later := lexemesFrom stop 0 rest
      (⟨construct.lexeme .closed, start, stop⟩ :: later.1, later.2) := by
  rw [resume, h]
  dsimp only
  rw [← List.append_assoc, List.drop_left]

/-- Over a line without a closer the construct goes on. -/
theorem resume_feed (h : construct.content? line = none) (start offset : Nat) (rest : Text) :
    construct.resume start offset (line ++ '\n' :: rest) =
      construct.resume start (offset + line.width + 1) rest := by
  have hfeed := content?_gap_none feed_mem_gaps h rest
  have hone : '\n'.utf8Size = 1 := rfl
  rw [resume, resume, hfeed]
  cases hcontent : construct.content? rest with
  | none =>
      simp only [Option.map_none, Text.width_append, Text.width_cons, hone, Nat.add_assoc]
  | some content =>
      have hdrop : (line ++ '\n' :: rest).drop (line ++ '\n' :: content ++ construct.closing).length =
          rest.drop (content ++ construct.closing).length := by
        rw [List.append_assoc, List.length_append, List.cons_append, List.length_cons,
          List.drop_length_add_append, List.drop_succ_cons]
      simp only [Option.map_some, hdrop]
      simp only [Text.width_append, Text.width_cons, hone, Nat.add_assoc]

theorem lexemesFrom_opener (construct : Construct) (offset : Nat) (inner : Text) :
    lexemesFrom offset 0 (construct.opener ++ inner) =
      construct.resume offset (offset + construct.opener.width) inner := by
  have hblank : ∀ behind, ∀ c ∈ (construct.opener ++ behind).head?, isBlank c = false := by
    intro behind c hmem
    cases construct <;> cases hmem <;> decide
  cases hcontent : construct.content? inner with
  | none =>
      have hfirst := firstLexeme?_opened hcontent
      have hne := List.append_ne_nil_of_left_ne_nil construct.opener_ne_nil inner
      have hread := @lexemesFrom_word offset _ [] _ hne (hblank inner) (by rwa [List.append_nil])
      rw [List.append_nil] at hread
      rw [hread, resume, hcontent, Text.width_append, Nat.add_assoc]
      rfl
  | some content =>
      obtain ⟨rest, rfl⟩ := content?_eq_some hcontent
      have hfirst := firstLexeme?_closed hcontent
      have hsplit : construct.opener ++ (content ++ (construct.closing ++ rest)) =
          construct.opener ++ (content ++ construct.closing) ++ rest := by simp
      have hne := List.append_ne_nil_of_left_ne_nil construct.opener_ne_nil
        (content ++ construct.closing)
      rw [hsplit] at hfirst
      rw [resume_some hcontent, hsplit, lexemesFrom_word hne (hblank _) hfirst]
      simp only [Text.width_append, Nat.add_assoc]

end Construct

/-- A text that is read to its end over a line feed is inside a construct there, and goes on with
it behind the line feed. -/
theorem Reading.feed {found : List LexemeSpan} {unread : Text}
    (h : Reading offset line found unread)
    (hread : (lexemesFrom offset 0 (line ++ '\n' :: rest)).2 = []) :
    ∃ (construct : Construct) (front : List LexemeSpan) (start : Nat),
      unread = [] ∧ (∀ span ∈ front, span.lexeme.Whole) ∧
      found = front ++ [⟨construct.lexeme .opened, start, offset + line.width⟩] ∧
      lexemesFrom offset 0 (line ++ '\n' :: rest) =
        let later := construct.resume start (offset + line.width + 1) rest
        (front ++ later.1, later.2) := by
  induction h with
  | @done offset =>
      -- The text would not be read to its end.
      rw [List.nil_append, lexemesFrom_none (by decide) (firstLexeme?_feed_none rest)] at hread
      cases hread
  | @stuck offset c behind hblank hfirst =>
      have hnone : firstLexeme? (c :: behind ++ '\n' :: rest) = none := by
        rw [firstLexeme?_feed (fun lexeme length h => by rw [hfirst] at h; cases h), hfirst]
      rw [List.cons_append] at hnone hread
      rw [lexemesFrom_none hblank hnone] at hread
      cases hread
  | @blank offset c behind _ found hblank _ ih =>
      rw [List.cons_append, lexemesFrom_blank hblank] at hread ⊢
      obtain ⟨construct, front, start, hunread, hfront, hfound, hlater⟩ := ih hread
      refine ⟨construct, front, start, hunread, hfront, ?_, ?_⟩
      · rw [hfound, Text.width_cons, Nat.add_assoc]
      · rw [hlater, Text.width_cons, Nat.add_assoc offset]
  | @lexeme offset word behind _ lexeme found hblank hfirst hstarts hbehind ih =>
      by_cases hwhole : lexeme.Whole
      · have hfeed : firstLexeme? (word ++ (behind ++ '\n' :: rest)) =
            some (lexeme, word.length) := by
          rw [← List.append_assoc, firstLexeme?_feed ?_ rest, hfirst]
          intro other length h
          rw [hfirst] at h
          cases h
          exact hwhole
        rw [List.append_assoc, lexemesFrom_word hstarts.ne_nil hblank hfeed] at hread ⊢
        obtain ⟨construct, front, start, hunread, hfront, hfound, hlater⟩ := ih hread
        refine ⟨construct, ⟨lexeme, offset, offset + word.width⟩ :: front, start, hunread, ?_, ?_, ?_⟩
        · rw [List.forall_mem_cons]
          exact ⟨hwhole, hfront⟩
        · rw [hfound, Text.width_append, ← Nat.add_assoc]
          rfl
        · rw [hlater, Text.width_append, ← Nat.add_assoc]
          rfl
      · -- Only a construct that stays open takes the line feed in.
        cases hstarts with
        | simple _ hkind _ => exact absurd (Lexeme.whole_simple hkind) hwhole
        | closed => exact absurd (Construct.whole_closed _) hwhole
        | @opened construct content hcontent =>
            obtain ⟨rfl, hunread⟩ := hbehind.nil_inv
            refine ⟨construct, [], offset, hunread, ?_, ?_, ?_⟩
            · intro span hmem
              cases hmem
            · rw [List.append_nil]
              rfl
            · rw [List.append_nil, List.append_assoc, construct.lexemesFrom_opener,
                construct.resume_feed hcontent, Text.width_append, ← Nat.add_assoc]
              rfl

end TokenConcord.Lexing
