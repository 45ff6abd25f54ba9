import TokenConcord.Proofs.Lexing.History

/-!
# Where lexing stops

A line that cannot be lexed is read up to a character that is no blank and at which no lexeme
starts. The error points to that character: it names its line and its place among the characters
of the line, and the lines before lex without it.
-/

namespace TokenConcord.Lexing

variable {offset : Nat} {text line front rest unread : Text} {found : List LexemeSpan}
  {c d : Char} {fault : LexError}

namespace Reading

/-- What is left unread is the end of the text. -/
theorem unread_suffix (h : Reading offset text found unread) : unread <:+ text := by
  induction h with
  | done => exact List.suffix_refl []
  | stuck _ _ => exact List.suffix_refl _
  | blank _ _ ih => exact ih.trans (List.suffix_cons _ _)
  | lexeme _ _ _ _ ih => exact ih.trans (List.suffix_append _ _)

/-- Reading does not stop at a blank. -/
theorem isBlank_unread (h : Reading offset text found (c :: unread)) : isBlank c = false := by
  generalize hunread : c :: unread = left at h
  induction h with
  | done => cases hunread
  | stuck hblank _ =>
      cases hunread
      exact hblank
  | blank _ _ ih => exact ih hunread
  | lexeme _ _ _ _ ih => exact ih hunread

end Reading

/-! ## Lines -/

/-- The error is at a character of the line that is no blank. -/
structure LexError.PointsInto (fault : LexError) (text : Text) : Prop where
  one_le : 1 ≤ fault.column
  le_length : fault.column ≤ text.length
  char : text[fault.column - 1]? = some fault.char
  not_blank : isBlank fault.char = false

theorem lexRest_done {number : Nat} {done : List Token}
    (h : lexemesFrom front.width 0 rest = (found, [])) :
    lexRest (front ++ rest) number front.length done =
      .ok ⟨done ++ tokensOf found, modeBehind found⟩ := by
  rw [lexRest, List.take_left, List.drop_left, h]
  rfl

theorem lexRest_stuck {number : Nat} {done : List Token} {unread : Text}
    (h : lexemesFrom front.width 0 rest = (found, d :: unread)) :
    lexRest (front ++ rest) number front.length done =
      .error ⟨number, (front ++ rest).length - (d :: unread).length + 1, d⟩ := by
  rw [lexRest, List.take_left, List.drop_left, h]
  rfl

/-- Columns count the characters of the whole line, also where lexing starts further on. -/
theorem lexRest_error {number : Nat} {done : List Token}
    (h : lexRest (front ++ rest) number front.length done = .error fault) :
    fault.line = number ∧ fault.PointsInto (front ++ rest) := by
  have hreading := reading_lexemesFrom front.width rest
  obtain ⟨found, unread, hfound⟩ :
      ∃ found unread, lexemesFrom front.width 0 rest = (found, unread) := ⟨_, _, rfl⟩
  rw [hfound] at hreading
  cases unread with
  | nil =>
      rw [lexRest_done hfound] at h
      cases h
  | cons c unread =>
      rw [lexRest_stuck hfound] at h
      cases h
      obtain ⟨read, hrest⟩ := hreading.unread_suffix
      have hcolumn : (front ++ rest).length - (c :: unread).length = (front ++ read).length := by
        rw [← hrest]
        simp only [List.length_append]
        omega
      have hline : front ++ rest = (front ++ read) ++ c :: unread := by
        rw [← hrest, List.append_assoc]
      refine ⟨rfl, Nat.le_add_left _ _, ?_, ?_, hreading.isBlank_unread⟩
      · rw [hcolumn, hline]
        simp only [List.length_append, List.length_cons]
        omega
      · rw [Nat.add_sub_cancel, hcolumn, hline, List.getElem?_append_right (Nat.le_refl _),
          Nat.sub_self]
        rfl

/-- Inside a construct lexing starts behind the closer. -/
theorem lexLine_closes {construct : Construct} {content : Text} {number : Nat}
    (h : construct.content? (content ++ (construct.closing ++ rest)) = some content) :
    lexLine (content ++ (construct.closing ++ rest)) (.inside construct) number =
      lexRest (content ++ construct.closing ++ rest) number (content ++ construct.closing).length
        [⟨construct.endKind, 0, (content ++ construct.closing).width⟩] := by
  rw [lexLine, construct.closer?_eq, h]
  dsimp only [Option.map_some]
  rw [← List.append_assoc, List.take_left]

/-- An error of a line names the line and points to a character of it, whatever mode the line
starts in. -/
theorem lexLine_error {mode : Mode} {number : Nat} (h : lexLine line mode number = .error fault) :
    fault.line = number ∧ fault.PointsInto line := by
  cases mode with
  | default => exact @lexRest_error [] line fault number [] h
  | inside construct =>
      cases hcontent : construct.content? line with
      | none =>
          rw [lexLine, construct.closer?_eq, hcontent] at h
          cases h
      | some content =>
          obtain ⟨rest, rfl⟩ := Construct.content?_eq_some hcontent
          rw [lexLine_closes hcontent] at h
          rw [← List.append_assoc]
          exact lexRest_error h

/-! ## Documents -/

namespace Document

variable {document later : Document} {lines : List Text}

theorem append_error_iff :
    document.append line = .error fault ↔
      lexLine line.dropReturn document.mode (document.lines + 1) = .error fault := by
  unfold append
  rw [Outcome.bind_error_iff]
  constructor
  · rintro (h | ⟨_, _, h⟩)
    · exact h
    · exact absurd h Outcome.pure_ne_error
  · exact Or.inl

/-- Lines that lex one after another make up a text that lexes. -/
theorem ofText_intercalate (hne : lines ≠ []) (h : ∀ line ∈ lines, '\n' ∉ line) :
    ofText (['\n'].intercalate lines) = empty.appendAll lines := by
  rw [ofText, Text.splitLines_intercalate hne h]

/-- Of a text that cannot be lexed the error names one of the lines, and the text of the lines
before it lexes. Without the carriage return that the line may end in, the error points to a
character that stands in the line and is no blank, so it never falls back to the replacement
character. -/
theorem ofText_error (h : ofText text = .error fault) :
    1 ≤ fault.line ∧ fault.line ≤ text.splitLines.length ∧
      (1 < fault.line → ∃ document,
        ofText (['\n'].intercalate (text.splitLines.take (fault.line - 1))) = .ok document) ∧
      ∃ line, text.splitLines[fault.line - 1]? = some line ∧
        fault.PointsInto line.dropReturn := by
  obtain ⟨before, line, after, document, hlines, hbefore, hline⟩ := Outcome.foldlM_error_iff.mp h
  have hcount : document.lines = before.length := by
    rw [lines_appendAll hbefore]
    exact Nat.zero_add _
  obtain ⟨hnumber, hpoints⟩ := lexLine_error (append_error_iff.mp hline)
  rw [hcount] at hnumber
  rw [hnumber, Nat.add_sub_cancel, hlines, List.take_left, List.length_append, List.length_cons]
  refine ⟨by omega, by omega, fun hone => ⟨document, ?_⟩, line, ?_, hpoints⟩
  · have hne : before ≠ [] := List.length_pos_iff.mp (by omega)
    have hfeeds : ∀ other ∈ before, '\n' ∉ other := by
      intro other hmem
      have hother : other ∈ text.splitLines := by
        rw [hlines]
        exact List.mem_append_left _ hmem
      exact Text.not_mem_of_mem_splitLines hother
    rw [ofText_intercalate hne hfeeds]
    exact hbefore
  · rw [List.getElem?_append_right (Nat.le_refl _), Nat.sub_self]
    rfl

/-- Behind a comment that goes over a line feed, in a line with a wide character and a carriage
return. -/
theorem ofText_error_comment :
    let text : Text := "x /*\r\né */ $\r\ny".toList
    let fault : LexError := ⟨2, 6, '$'⟩
    ofText text = .error fault ∧
      (∃ document, ofText (['\n'].intercalate (text.splitLines.take 1)) = .ok document) ∧
      fault.PointsInto "é */ $".toList := by
  intro text fault
  have hfault : ofText text = .error fault := by decide
  obtain ⟨_, _, hbefore, line, hline, hpoints⟩ := ofText_error hfault
  have hsecond : text.splitLines[1]? = some "é */ $\r".toList := by decide
  have hreturn : Text.dropReturn "é */ $\r".toList = "é */ $".toList := by decide
  obtain rfl : "é */ $\r".toList = line := Option.some.inj (hsecond.symm.trans hline)
  rw [hreturn] at hpoints
  exact ⟨hfault, hbefore (by decide), hpoints⟩

end Document

end TokenConcord.Lexing
