import TokenConcord.Proofs.Lexing.Gaps
import TokenConcord.Proofs.Lexing.History
import TokenConcord.Proofs.Lexing.Lines
import TokenConcord.Proofs.Text.Cuts

/-!
# What tokens leave out

The tokens of a line and the white space between them make up the line, and with the line feeds
between the lines they make up the text. So tokens lie in the text one behind the other, and a
byte in none of them belongs to white space or to the end of a line.
-/

namespace TokenConcord.Lexing

/-- From a byte offset on, a text is gaps and the pieces of these tokens, none with a line feed. -/
inductive Accounts : Nat → Text → List Token → Prop
  | done {offset : Nat} : Accounts offset [] []
  | gap {offset : Nat} {c : Char} {rest : Text} {tokens : List Token} :
      c ∈ gaps → Accounts (offset + c.utf8Size) rest tokens → Accounts offset (c :: rest) tokens
  | token {offset : Nat} {piece rest : Text} {kind : Kind} {tokens : List Token} :
      '\n' ∉ piece → Accounts (offset + piece.width) rest tokens →
        Accounts offset (piece ++ rest) (⟨kind, offset, offset + piece.width⟩ :: tokens)

/-- The token covers a byte of the text. -/
def Token.Covers (token : Token) (byte : Nat) : Prop := token.start ≤ byte ∧ byte < token.stop

/-- The tokens are pieces of the text inside its lines, one behind the other, and the bytes that
none of them covers are gaps. -/
structure LaidOut (text : Text) (tokens : List Token) : Prop where
  slice : ∀ token ∈ tokens, ∃ piece,
    text.slice? token.start token.stop = some piece ∧ '\n' ∉ piece
  ordered : tokens.Pairwise (fun token later => token.stop ≤ later.start)
  uncovered : ∀ byte < text.width, (∀ token ∈ tokens, ¬ token.Covers byte) →
    ∃ (front : Text) (c : Char) (back : Text),
      text = front ++ c :: back ∧ front.width = byte ∧ c ∈ gaps

variable {offset : Nat} {text more line : Text} {tokens added : List Token}

namespace Accounts

theorem append (h : Accounts offset text tokens)
    (hmore : Accounts (offset + text.width) more added) :
    Accounts offset (text ++ more) (tokens ++ added) := by
  induction h with
  | done => exact hmore
  | gap hc _ ih =>
      refine .gap hc (ih ?_)
      rwa [Text.width_cons, ← Nat.add_assoc] at hmore
  | token hpiece _ ih =>
      rw [List.append_assoc]
      refine .token hpiece (ih ?_)
      rwa [Text.width_append, ← Nat.add_assoc] at hmore

theorem of_gaps (h : ∀ c ∈ text, c ∈ gaps) : Accounts offset text [] := by
  induction text generalizing offset with
  | nil => exact .done
  | cons c text ih =>
      obtain ⟨hc, htext⟩ := List.forall_mem_cons.mp h
      exact .gap hc (ih htext)

theorem shift (h : Accounts offset text tokens) (base : Nat) :
    Accounts (base + offset) text (tokens.map (·.shift base)) := by
  induction h with
  | done => exact .done
  | gap hc _ ih =>
      rw [← Nat.add_assoc] at ih
      exact .gap hc ih
  | @token offset piece rest kind tokens hpiece _ ih =>
      rw [← Nat.add_assoc] at ih
      have htoken := @Accounts.token (base + offset) _ _ kind _ hpiece ih
      rw [Nat.add_assoc] at htoken
      exact htoken

/-! ## What follows -/

theorem offset_le (h : Accounts offset text tokens) : ∀ token ∈ tokens, offset ≤ token.start := by
  induction h with
  | done =>
      intro token hmem
      cases hmem
  | gap _ _ ih => exact fun token hmem => Nat.le_trans (Nat.le_add_right _ _) (ih token hmem)
  | token _ _ ih =>
      rw [List.forall_mem_cons]
      exact ⟨Nat.le_refl _, fun token hmem => Nat.le_trans (Nat.le_add_right _ _) (ih token hmem)⟩

theorem pairwise (h : Accounts offset text tokens) :
    tokens.Pairwise (fun token later => token.stop ≤ later.start) := by
  induction h with
  | done => exact .nil
  | gap _ _ ih => exact ih
  | token _ hrest ih => exact .cons hrest.offset_le ih

theorem slice (h : Accounts offset text tokens) (front : Text) (hfront : front.width = offset) :
    ∀ token ∈ tokens, ∃ piece, (front ++ text).slice? token.start token.stop = some piece ∧
      '\n' ∉ piece := by
  induction h generalizing front with
  | done =>
      intro token hmem
      cases hmem
  | @gap offset c rest _ _ _ ih =>
      have hnext : (front ++ [c]).width = offset + c.utf8Size := by
        rw [Text.width_append, hfront]
        rfl
      have hslices := ih _ hnext
      rw [List.append_assoc] at hslices
      exact hslices
  | @token offset piece rest kind _ hpiece _ ih =>
      have hnext : (front ++ piece).width = offset + piece.width := by
        rw [Text.width_append, hfront]
      have hslices := ih _ hnext
      rw [List.append_assoc] at hslices
      rw [List.forall_mem_cons]
      refine ⟨⟨piece, ?_, hpiece⟩, hslices⟩
      rw [← hfront]
      exact Text.slice?_append front piece rest

/-- A byte that no token covers is a gap. -/
theorem uncovered (h : Accounts offset text tokens) {byte : Nat} (hbyte : byte < text.width)
    (hnone : ∀ token ∈ tokens, ¬ token.Covers (offset + byte)) :
    ∃ (front : Text) (c : Char) (back : Text),
      text = front ++ c :: back ∧ front.width = byte ∧ c ∈ gaps := by
  induction h generalizing byte with
  | done => exact absurd hbyte (Nat.not_lt_zero _)
  | @gap offset c rest tokens hc _ ih =>
      -- A gap is one byte wide, so the byte is this gap or stands behind it.
      have hone : ∀ c ∈ gaps, c.utf8Size = 1 := by decide
      rw [Text.width_cons, hone c hc] at hbyte
      rw [hone c hc] at ih
      cases byte with
      | zero => exact ⟨[], c, rest, rfl, rfl, hc⟩
      | succ byte =>
          rw [Nat.add_comm byte 1, ← Nat.add_assoc] at hnone
          obtain ⟨front, d, back, rfl, hfront, hd⟩ := ih (by omega) hnone
          refine ⟨c :: front, d, back, rfl, ?_, hd⟩
          rw [Text.width_cons, hone c hc, hfront, Nat.add_comm]
  | @token offset piece rest kind tokens _ _ ih =>
      obtain ⟨hpiece, hnone⟩ := List.forall_mem_cons.mp hnone
      have hbehind : piece.width ≤ byte := by
        refine Nat.le_of_not_lt fun hlt => hpiece ⟨Nat.le_add_right _ _, ?_⟩
        exact Nat.add_lt_add_left hlt _
      obtain ⟨byte, rfl⟩ := Nat.exists_eq_add_of_le hbehind
      rw [Text.width_append] at hbyte
      rw [← Nat.add_assoc] at hnone
      obtain ⟨front, d, back, rfl, hfront, hd⟩ := ih (Nat.lt_of_add_lt_add_left hbyte) hnone
      refine ⟨piece ++ front, d, back, (List.append_assoc _ _ _).symm, ?_, hd⟩
      rw [Text.width_append, hfront]

theorem laidOut (h : Accounts 0 text tokens) : LaidOut text tokens where
  slice := h.slice [] rfl
  ordered := h.pairwise
  uncovered byte hbyte hnone := by
    refine h.uncovered hbyte ?_
    rwa [Nat.zero_add]

end Accounts

/-! ## Lines -/

theorem Reading.accounts {found : List LexemeSpan} (h : Reading offset text found [])
    (hfeed : '\n' ∉ text) : Accounts offset text (tokensOf found) := by
  generalize hunread : ([] : Text) = unread at h
  induction h with
  | done => exact .done
  | stuck => cases hunread
  | blank hblank _ ih =>
      exact .gap (mem_gaps_iff.mpr (Or.inl hblank))
        (ih (fun hmem => hfeed (List.mem_cons_of_mem _ hmem)) hunread)
  | lexeme _ _ _ _ ih =>
      obtain ⟨hword, hrest⟩ := not_or.mp (List.mem_append.not.mp hfeed)
      exact .token hword (ih hrest hunread)

theorem LineReading.accounts {mode : Mode} {lexed : LexedLine} (h : LineReading line mode lexed)
    (hfeed : '\n' ∉ line) : Accounts 0 line lexed.tokens := by
  cases h with
  | code hread => exact hread.accounts hfeed
  | @inside construct =>
      have htoken := @Accounts.token 0 line [] construct.contentKind [] hfeed .done
      rw [List.append_nil, Nat.zero_add] at htoken
      exact htoken
  | @closes construct content rest found _ hread =>
      rw [← List.append_assoc] at hfeed ⊢
      obtain ⟨hclosed, hrest⟩ := not_or.mp (List.mem_append.not.mp hfeed)
      rw [← Nat.zero_add (content ++ construct.closing).width] at hread ⊢
      exact .token hclosed (hread.accounts hrest)

theorem Reading.start_lt_stop {found : List LexemeSpan} {unread : Text}
    (h : Reading offset text found unread) : ∀ span ∈ found, span.start < span.stop := by
  induction h with
  | done | stuck =>
      intro span hmem
      cases hmem
  | blank _ _ ih => exact ih
  | lexeme _ _ hstarts _ ih =>
      rw [List.forall_mem_cons]
      exact ⟨Nat.lt_add_of_pos_right (Text.width_pos hstarts.ne_nil), ih⟩

/-- Only content of a construct is empty, on an empty line. -/
theorem LineReading.of_empty {mode : Mode} {lexed : LexedLine} (h : LineReading line mode lexed) :
    ∀ token ∈ lexed.tokens, token.start = token.stop →
      (∃ construct : Construct, token.kind = construct.contentKind) ∧ line = [] := by
  have hfound : ∀ {offset text found}, Reading offset text found [] →
      ∀ token ∈ tokensOf found, token.start ≠ token.stop := by
    intro offset text found hread token hmem
    obtain ⟨span, hspan, rfl⟩ := List.mem_map.mp hmem
    exact Nat.ne_of_lt (hread.start_lt_stop span hspan)
  intro token hmem hempty
  cases h with
  | code hread => exact absurd hempty (hfound hread token hmem)
  | @inside construct =>
      rw [List.mem_singleton.mp hmem] at hempty ⊢
      refine ⟨⟨construct, rfl⟩, ?_⟩
      by_contra hne
      exact absurd hempty (Nat.ne_of_lt (Text.width_pos hne))
  | @closes construct content rest found _ hread =>
      rcases List.mem_cons.mp hmem with rfl | hmem
      · have hne := List.append_ne_nil_of_right_ne_nil content construct.closing_ne_nil
        exact absurd hempty (Nat.ne_of_lt (Text.width_pos hne))
      · exact absurd hempty (hfound hread token hmem)

/-! ## Documents -/

namespace Document

variable {document later : Document} {lines : List Text} {groups : List (List Token)}

/-- What a line adds accounts for it, with the carriage return it may end in. -/
theorem append_accounts (h : document.append line = .ok later) (hfeed : '\n' ∉ line) :
    ∃ added, later.tokens = document.tokens ++ added ∧
      later.nextStart = document.nextStart + line.width + 1 ∧
      Accounts document.nextStart line added := by
  obtain ⟨lexed, hread, rfl⟩ := append_ok_iff.mp h
  refine ⟨_, rfl, rfl, ?_⟩
  obtain ⟨tail, hline, htail⟩ := Text.exists_append_dropReturn line
  have hgaps : ∀ c ∈ tail, c ∈ gaps := by
    intro c hc
    rw [htail c hc]
    decide
  have hinner := hread.accounts fun hmem => hfeed (Text.mem_of_mem_dropReturn hmem)
  have haccounts := (hinner.shift document.nextStart).append (.of_gaps hgaps)
  rwa [← hline, List.append_nil] at haccounts

/-- What lines add accounts for them with line feeds in between. -/
theorem appendAll_accounts (h : document.appendAll lines = .ok later)
    (hlines : ∀ line ∈ lines, '\n' ∉ line) :
    ∃ added, later.tokens = document.tokens ++ added ∧
      Accounts document.nextStart (['\n'].intercalate lines) added := by
  induction lines generalizing document with
  | nil =>
      cases h
      exact ⟨[], (List.append_nil _).symm, .done⟩
  | cons line lines ih =>
      obtain ⟨next, hnext, hlater⟩ := appendAll_cons_ok_iff.mp h
      obtain ⟨hline, hlines⟩ := List.forall_mem_cons.mp hlines
      obtain ⟨group, htokens, hstart, hgroup⟩ := append_accounts hnext hline
      -- Only a line with another one behind it ends in a line feed.
      cases lines with
      | nil =>
          cases hlater
          rw [List.intercalate_singleton]
          exact ⟨group, htokens, hgroup⟩
      | cons second lines =>
          obtain ⟨added, hadded, haccounts⟩ := ih hlater hlines
          rw [hstart] at haccounts
          refine ⟨group ++ added, by rw [hadded, htokens, List.append_assoc], ?_⟩
          rw [List.intercalate_cons_cons, List.append_assoc]
          exact hgroup.append (.gap (by decide) haccounts)

/-- What a line gives in the mode behind the lines before it, moved to where the line starts. -/
def LineTokens (before : List Text) (line : Text) (group : List Token) : Prop :=
  ∃ earlier lexed, empty.appendAll before = .ok earlier ∧
    lexLine line.dropReturn earlier.mode (before.length + 1) = .ok lexed ∧
    group = lexed.tokens.map (·.shift (Text.unlines before).width)

theorem LineTokens.of_empty {before : List Text} {group : List Token}
    (h : LineTokens before line group) :
    ∀ token ∈ group, token.start = token.stop →
      (∃ construct : Construct, token.kind = construct.contentKind) ∧ line.dropReturn = [] := by
  obtain ⟨earlier, lexed, _, hlexed, rfl⟩ := h
  intro token hmem hempty
  obtain ⟨inner, hinner, rfl⟩ := List.mem_map.mp hmem
  exact (lexLine_ok_iff.mp hlexed).of_empty inner hinner (Nat.add_left_cancel hempty)

theorem History.lineTokens {before after : List Text}
    (h : History (before ++ line :: after) groups document) :
    ∃ group, groups[before.length]? = some group ∧ LineTokens before line group := by
  obtain ⟨earlierGroups, earlier, next, laterGroups, hearlier, hnext, rfl⟩ := h.split
  obtain ⟨lexed, hread, rfl⟩ := append_ok_iff.mp hnext
  refine ⟨lexed.tokens.map (·.shift earlier.nextStart), ?_, earlier, lexed, ?_, ?_, ?_⟩
  · rw [tokensSince_tokenCount, ← hearlier.length_eq,
      List.getElem?_append_right (Nat.le_refl _), Nat.sub_self]
    rfl
  · exact hearlier.appendAll_eq
  · exact lexLine_ok_iff.mpr hread
  · rw [hearlier.nextStart_eq]

/-- The tokens of a text are laid out in it. They are what its lines give one after another, each
in the mode behind the lines before it and moved to where the line starts, and only content of a
construct on an empty line is empty. -/
theorem ofText_accounts (h : ofText text = .ok document) :
    LaidOut text document.tokens ∧
    ∃ groups : List (List Token), groups.flatten = document.tokens ∧
      groups.length = text.splitLines.length ∧
      ∀ before line after, text.splitLines = before ++ line :: after →
        (∃ back, text = Text.unlines before ++ (line ++ back)) ∧
        ∃ group, groups[before.length]? = some group ∧ LineTokens before line group ∧
          ∀ token ∈ group, token.start = token.stop →
            (∃ construct : Construct, token.kind = construct.contentKind) ∧
              line.dropReturn = [] := by
  obtain ⟨added, hadded, haccounts⟩ :=
    appendAll_accounts h fun line hmem => Text.not_mem_of_mem_splitLines hmem
  rw [Text.intercalate_splitLines] at haccounts
  rw [empty, List.nil_append] at hadded
  obtain ⟨groups, hgroups⟩ := exists_history h
  refine ⟨?_, groups, hgroups.flatten_eq, hgroups.length_eq, ?_⟩
  · rw [hadded]
    exact haccounts.laidOut
  · intro before line after hsplit
    rw [hsplit] at hgroups
    obtain ⟨group, hgroup, htokens⟩ := hgroups.lineTokens
    exact ⟨Text.splitLines_eq_append hsplit, group, hgroup, htokens, htokens.of_empty⟩

/-- Lines that end in carriage returns, with a comment over an empty one and a wide character. -/
theorem ofText_accounts_returns :
    let text : Text := "é /*\r\n\r\n*/ x".toList
    ∃ document, ofText text = .ok document ∧
      document.tokens = [⟨.identifier, 0, 2⟩, ⟨.multilineCommentStart, 3, 5⟩,
        ⟨.multilineCommentContent, 7, 7⟩, ⟨.multilineCommentEnd, 9, 11⟩, ⟨.identifier, 12, 13⟩] ∧
      LaidOut text document.tokens ∧
      ∃ group, LineTokens ["é /*\r".toList] ['\r'] group ∧
        ∀ token ∈ group, token.start = token.stop →
          ∃ construct : Construct, token.kind = construct.contentKind := by
  intro text
  have hok : (ofText text).map (·.tokens) = .ok [⟨.identifier, 0, 2⟩,
      ⟨.multilineCommentStart, 3, 5⟩, ⟨.multilineCommentContent, 7, 7⟩,
      ⟨.multilineCommentEnd, 9, 11⟩, ⟨.identifier, 12, 13⟩] := by
    decide
  cases hdocument : ofText text with
  | error fault => rw [hdocument] at hok; cases hok
  | ok document =>
      rw [hdocument] at hok
      obtain ⟨hlaid, groups, _, _, hlines⟩ := ofText_accounts hdocument
      obtain ⟨_, group, _, hgroup, hempty⟩ :=
        hlines ["é /*\r".toList] ['\r'] ["*/ x".toList] (by decide)
      refine ⟨document, rfl, Except.ok.inj hok, hlaid, group, hgroup, ?_⟩
      exact fun token hmem hstop => (hempty token hmem hstop).1

end Document

end TokenConcord.Lexing
