import TokenConcord.Proofs.Lexing.Failures

/-!
# Documents behind one another

A text that leaves nothing open is lexed in front of more lines as it is by itself, and the lines
behind it are lexed as a text of their own: they only start further on and have higher numbers. And
whatever a document is left in, one more line leaves its tokens as they are and adds those of the
line.
-/

namespace TokenConcord.Lexing

/-! ## Lines with higher numbers -/

/-- The error with more lines in front. -/
def LexError.below (lines : Nat) (fault : LexError) : LexError :=
  ⟨fault.line + lines, fault.column, fault.char⟩

theorem lexRest_below (line : Text) (number lines resolved : Nat) (done : List Token) :
    lexRest line (number + lines) resolved done =
      (lexRest line number resolved done).mapError (·.below lines) := by
  unfold lexRest
  generalize lexemesFrom _ 0 _ = lexemes
  obtain ⟨found, unread⟩ := lexemes
  cases unread <;> rfl

/-- The number of a line only shows in its error. -/
theorem lexLine_below (line : Text) (mode : Mode) (number lines : Nat) :
    lexLine line mode (number + lines) =
      (lexLine line mode number).mapError (·.below lines) := by
  cases mode with
  | default => exact lexRest_below line number lines 0 []
  | inside construct =>
      cases hcloser : construct.closer? line with
      | none =>
          simp only [lexLine, hcloser]
          rfl
      | some length =>
          simp only [lexLine, hcloser]
          exact lexRest_below line number lines length _

namespace Document

/-! ## Two documents as one -/

/-- The lines of a document with those of another one behind them. -/
def followedBy (document later : Document) : Document where
  tokens := document.tokens ++ later.tokens.map (·.shift document.nextStart)
  mode := later.mode
  lines := document.lines + later.lines
  nextStart := document.nextStart + later.nextStart

/-- What comes of lines behind those of a document. -/
def behind (document : Document) : Except LexError Document → Except LexError Document
  | .ok later => .ok (document.followedBy later)
  | .error fault => .error (fault.below document.lines)

theorem followedBy_empty {document : Document} (h : document.mode = .default) :
    document.followedBy empty = document := by
  cases document
  cases h
  simp [followedBy, empty]

/-- A line comes to the same in front of and behind other lines. -/
theorem append_followedBy (document later : Document) (line : Text) :
    (document.followedBy later).append line = document.behind (later.append line) := by
  have hlexed : lexLine line.dropReturn later.mode (document.lines + later.lines + 1) =
      (lexLine line.dropReturn later.mode (later.lines + 1)).mapError (·.below document.lines) := by
    rw [Nat.add_assoc, Nat.add_comm, lexLine_below]
  unfold append
  dsimp only [followedBy]
  rw [hlexed]
  cases lexLine line.dropReturn later.mode (later.lines + 1) with
  | error fault => rfl
  | ok lexed =>
      apply congrArg Except.ok
      simp [followedBy, Token.shift, Function.comp_def, Nat.add_assoc]

/-- Lines come to the same behind other lines. -/
theorem appendAll_followedBy (document later : Document) (lines : List Text) :
    (document.followedBy later).appendAll lines = document.behind (later.appendAll lines) := by
  unfold appendAll
  induction lines generalizing later with
  | nil => rfl
  | cons line lines ih =>
      rw [List.foldlM_cons, List.foldlM_cons, append_followedBy]
      cases later.append line with
      | error fault => rfl
      | ok next => exact ih next

/-! ## Texts -/

variable {text line : Text} {document later : Document} {lines : List Text}

/-- A text that leaves nothing open is lexed in front of a line feed as it is by itself. -/
theorem ofText_append_feed (h : ofText text = .ok document) (hmode : document.mode = .default)
    (more : Text) : ofText (text ++ '\n' :: more) = document.behind (ofText more) := by
  have hlines : empty.appendAll (text.splitLines ++ more.splitLines) =
      document.appendAll more.splitLines := by
    unfold ofText appendAll at h
    unfold appendAll
    rw [List.foldlM_append, h]
    rfl
  rw [ofText, Text.splitLines_append_feed, hlines, ofText, ← appendAll_followedBy,
    followedBy_empty hmode]

/-- One more line leaves the tokens as they are and adds its own, moved to where it starts. -/
theorem append_adds (h : document.append line = .ok later) :
    later.tokens.take document.tokenCount = document.tokens ∧
      ∃ lexed, lexLine line.dropReturn document.mode (document.lines + 1) = .ok lexed ∧
        later.tokensSince document.tokenCount =
          lexed.tokens.map (·.shift document.nextStart) := by
  obtain ⟨lexed, hread, rfl⟩ := append_ok_iff.mp h
  exact ⟨List.take_left, lexed, lexLine_ok_iff.mpr hread, List.drop_left⟩

/-- Behind a text that leaves nothing open and a line feed, another text lexes if it lexes by
itself. Its tokens then stand behind those of the first one, further on by the bytes in front, the
mode is the one it leaves behind, and the lines of both count. If it does not lex, it has the same
error, further down by the lines of the first one. And behind any lines that lex, one more line that
does leaves all tokens as they are, and the tokens since then are those of the line in the mode
that it starts in, moved to where it starts. -/
theorem ofText_composes :
    (∀ (text more : Text) (document : Document), ofText text = .ok document →
      document.mode = .default →
      ofText (text ++ '\n' :: more) =
        match ofText more with
        | .ok later =>
            .ok { tokens := document.tokens ++ later.tokens.map (·.shift (text.width + 1))
                  mode := later.mode
                  lines := document.lines + later.lines
                  nextStart := text.width + 1 + later.nextStart }
        | .error fault => .error ⟨fault.line + document.lines, fault.column, fault.char⟩) ∧
    ∀ (lines : List Text) (line : Text) (document later : Document),
      empty.appendAll lines = .ok document → document.append line = .ok later →
      later.tokens.take document.tokenCount = document.tokens ∧
        ∃ lexed, lexLine line.dropReturn document.mode (lines.length + 1) = .ok lexed ∧
          later.tokensSince document.tokenCount =
            lexed.tokens.map (·.shift (Text.unlines lines).width) := by
  constructor
  · intro text more document h hmode
    obtain ⟨groups, hhistory⟩ := exists_history h
    have hstart : document.nextStart = text.width + 1 := by
      rw [hhistory.nextStart_eq, Text.unlines_splitLines, Text.width_append]
      rfl
    rw [ofText_append_feed h hmode]
    cases ofText more with
    | error fault => rfl
    | ok later => rw [behind, followedBy, hstart]
  · intro lines line document later hlines h
    obtain ⟨groups, hhistory : History lines groups document⟩ := History.empty.appendAll hlines
    rw [← hhistory.lines_eq, ← hhistory.nextStart_eq]
    exact append_adds h

/-- A comment over a line that ends in a carriage return, in front of a text literal over two lines,
of a line that does not lex, and of one more line. -/
theorem ofText_composes_comment :
    let text : Text := "é /*\r\n*/ y".toList
    let document : Document := ⟨[⟨.identifier, 0, 2⟩, ⟨.multilineCommentStart, 3, 5⟩,
      ⟨.multilineCommentEnd, 7, 9⟩, ⟨.identifier, 10, 11⟩], .default, 2, 12⟩
    ofText text = .ok document ∧
      ofText (text ++ '\n' :: "\"z\r\n\" 1".toList) =
        .ok ⟨document.tokens ++ [⟨.textLiteralStart, 12, 14⟩, ⟨.textLiteralEnd, 16, 17⟩,
          ⟨.numericLiteral, 18, 19⟩], .default, 4, 20⟩ ∧
      ofText (text ++ '\n' :: "1\n$".toList) = .error ⟨4, 1, '$'⟩ ∧
      ∃ later, document.append "z\r".toList = .ok later ∧
        later.tokens.take 4 = document.tokens ∧ later.tokensSince 4 = [⟨.identifier, 12, 13⟩] := by
  intro text document
  have htext : ofText text = .ok document := by decide
  have hopens : ofText "\"z\r\n\" 1".toList = .ok ⟨[⟨.textLiteralStart, 0, 2⟩,
      ⟨.textLiteralEnd, 4, 5⟩, ⟨.numericLiteral, 6, 7⟩], .default, 2, 8⟩ := by decide
  have hstops : ofText "1\n$".toList = .error ⟨2, 1, '$'⟩ := by decide
  obtain ⟨hjoined, hadds⟩ := ofText_composes
  have hliteral := hjoined text "\"z\r\n\" 1".toList document htext rfl
  have hfault := hjoined text "1\n$".toList document htext rfl
  rw [hopens] at hliteral
  rw [hstops] at hfault
  have hlater : document.append "z\r".toList =
      .ok ⟨document.tokens ++ [⟨.identifier, 12, 13⟩], .default, 3, 15⟩ := by decide
  have hline : lexLine "z".toList .default 3 = .ok ⟨[⟨.identifier, 0, 1⟩], .default⟩ := by decide
  obtain ⟨hkept, lexed, hlexed, hadded⟩ := hadds text.splitLines _ document _ htext hlater
  obtain rfl := Except.ok.inj (hline.symm.trans hlexed)
  exact ⟨htext, hliteral, hfault, _, hlater, hkept, hadded⟩

end Document

end TokenConcord.Lexing
