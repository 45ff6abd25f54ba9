import TokenConcord.Proofs.Bundled.Code
import TokenConcord.Proofs.Bundled.Items
import TokenConcord.Proofs.Lexing.Pieces

/-!
# Lines of pieces under the bundled grammar

On a line of pieces the grammar takes each item and each comment as a whole, and the parts of a
comment that runs over lines where the line begins or ends. Normalizing leaves one unit for each
piece. The tokens of a comment adjoin, so they are merged up to its closer, and a comment that is
not closed is merged up to the end of the line.
-/

namespace TokenConcord.Bundled

open Grammar Lexing Normalize Pattern TokenRun

variable {front text rest content line : Text} {run : TokenRun} {opener closer : ScopedToken}
  {inner tokens merged : List ScopedToken} {mode mode' : Mode} {count : Nat} {c : Char}

/-! ## Units of comments -/

/-- Scopes of a block comment outside of records. -/
def commentScopes : List String := rootScopes ++ [Label.blockComment]

/-- What an open block comment leaves on the rules. -/
def commentFrame : Frame := ⟨1, commentScopes, commentScopes⟩

/-- The rules that a mode leaves open outside of records and text literals. -/
def stackOf : Mode → RuleStack
  | .inside .comment => compiled.initialStack.push commentFrame
  | _ => compiled.initialStack

/-- The token of a comment's closer behind a text. -/
def commentCloser (front : Text) : ScopedToken :=
  ⟨front.width, (front ++ ['*', '/']).width, commentScopes ++ [Label.blockCommentEnd], false⟩

/-- Labels of a token inside a comment. -/
theorem hasScope_comment (start stop : Nat) :
    let token : ScopedToken := ⟨start, stop, commentScopes, false⟩
    token.hasScope Label.quotedIdentifierBegin = false ∧ token.hasScope Label.stringBegin = false ∧
      token.hasScope Label.blockComment = true ∧ token.hasScope Label.blockCommentEnd = false := by
  have hlabels : commentScopes.contains Label.quotedIdentifierBegin = false ∧
      commentScopes.contains Label.stringBegin = false ∧
      commentScopes.contains Label.blockComment = true ∧
      commentScopes.contains Label.blockCommentEnd = false := by decide
  exact hlabels

theorem hasScope_commentCloser (front : Text) :
    (commentCloser front).hasScope Label.quotedIdentifierBegin = false ∧
      (commentCloser front).hasScope Label.stringBegin = false ∧
      (commentCloser front).hasScope Label.blockComment = true ∧
      (commentCloser front).hasScope Label.blockCommentEnd = true := by
  have hlabels : let scopes := commentScopes ++ [Label.blockCommentEnd]
      scopes.contains Label.quotedIdentifierBegin = false ∧
        scopes.contains Label.stringBegin = false ∧ scopes.contains Label.blockComment = true ∧
        scopes.contains Label.blockCommentEnd = true := by decide
  exact hlabels

theorem commentScopes_eq : Normalize.commentScopes commentScopes = commentScopes ∧
    Normalize.commentScopes (commentScopes ++ [Label.blockCommentEnd]) = commentScopes := by
  decide

/-- A comment goes on over a gap in it. -/
theorem commentEnd_gap {start stop : Nat} (h : start ≤ stop) (later : List ScopedToken) :
    commentEnd start (gap start stop commentScopes ++ later) =
      ((commentEnd stop later).1,
        (gap start stop commentScopes).length + (commentEnd stop later).2) := by
  obtain ⟨_, _, hcomment, hend⟩ := hasScope_comment start stop
  unfold gap
  split
  next hle => rw [Nat.le_antisymm h hle, List.nil_append, List.length_nil, Nat.zero_add]
  next => simp [commentEnd, hcomment, hend, Nat.add_comm]

/-- A comment ends with its closer. -/
theorem commentEnd_closer (front : Text) (later : List ScopedToken) :
    commentEnd front.width (commentCloser front :: later) = ((front ++ ['*', '/']).width, 1) := by
  obtain ⟨_, _, hcomment, hend⟩ := hasScope_commentCloser front
  have hstart : (commentCloser front).start = front.width := rfl
  have hmerged : (commentCloser front).merged = false := rfl
  rw [commentEnd, hcomment, hend, hstart, hmerged]
  simp [commentCloser]

/-- A token inside a comment starts a unit that goes on as far as the comment does. -/
theorem unit_comment (index start stop : Nat) (later : List ScopedToken) :
    Normalize.unit index ⟨start, stop, commentScopes, false⟩ later =
      .ok (⟨start, (commentEnd stop later).1, commentScopes, true⟩, (commentEnd stop later).2) := by
  obtain ⟨hidentifier, hstring, hcomment, hend⟩ := hasScope_comment start stop
  simp [Normalize.unit, Normalize.blockComment, hidentifier, hstring, hcomment, hend,
    commentScopes_eq.1]

theorem unit_commentCloser (index : Nat) (front : Text) (later : List ScopedToken) :
    Normalize.unit index (commentCloser front) later =
      .ok (⟨front.width, (front ++ ['*', '/']).width, commentScopes, true⟩, 0) := by
  obtain ⟨hidentifier, hstring, hcomment, hend⟩ := hasScope_commentCloser front
  rw [Normalize.unit, hidentifier, hstring, hcomment, Normalize.blockComment, hend]
  simp [commentCloser, commentScopes_eq.2]

/-- An opener, a gap and a closer make up one unit. -/
theorem unites_comment {start stop : Nat} (h : stop ≤ front.width) :
    Unites (⟨start, stop, commentScopes, false⟩ ::
        (gap stop front.width commentScopes ++ [commentCloser front]))
      [⟨start, (front ++ ['*', '/']).width, commentScopes, true⟩] := by
  refine unites_unit (by simp [commentScopes, rootScopes]) fun index later => ?_
  rw [unit_comment, List.append_assoc, List.singleton_append, commentEnd_gap h, commentEnd_closer]
  simp

/-- The rest of a comment and its closer make up one unit. -/
theorem unites_commentEnd (front : Text) :
    Unites (gap 0 front.width commentScopes ++ [commentCloser front])
      [⟨0, (front ++ ['*', '/']).width, commentScopes, true⟩] := by
  -- With nothing in front of it the closer opens the unit by itself.
  by_cases hwidth : front.width ≤ 0
  · have hzero : front.width = 0 := Nat.le_zero.mp hwidth
    rw [gap, if_pos hwidth, List.nil_append]
    refine unites_unit (by simp [commentCloser, commentScopes, rootScopes]) fun index later => ?_
    rw [unit_commentCloser, hzero]
    rfl
  · rw [gap, if_neg hwidth, List.singleton_append]
    refine unites_unit (by simp [commentScopes, rootScopes]) fun index later => ?_
    rw [unit_comment, List.singleton_append, commentEnd_closer]
    rfl

/-! ## Comments on a line -/

theorem grounded_comment : compiled.Grounded (compiled.initialStack.push commentFrame) :=
  grounded_root.push commentFrame

theorem takeAll_comment_opener (hrun : run.stop ≤ front.width) :
    compiled.takeAll (.between front ('/' :: '*' :: text)) compiled.initialStack run =
      compiled.takeAll (.between (front ++ ['/', '*']) text)
        (compiled.initialStack.push commentFrame)
        ⟨run.tokens ++ gap run.stop front.width rootScopes ++
          [⟨front.width, (front ++ ['/', '*']).width, commentScopes, false⟩],
          (front ++ ['/', '*']).width⟩ := by
  rw [takeAll_found grounded_root (foundAt_comment_opener isCode_root), take_span rfl,
    coverMatch_gap hrun (List.cons_ne_nil _ _) _ _ rfl]
  rfl

theorem takeAll_comment_closer (hrun : run.stop ≤ front.width) :
    compiled.takeAll (.between front ('*' :: '/' :: rest))
        (compiled.initialStack.push commentFrame) run =
      compiled.takeAll (.between (front ++ ['*', '/']) rest) compiled.initialStack
        ⟨run.tokens ++ gap run.stop front.width commentScopes ++ [commentCloser front],
          (front ++ ['*', '/']).width⟩ :=
  takeAll_comment_end grounded_comment rfl hrun

/-- The grammar takes a comment that closes as a whole. -/
theorem takenAs_comment (hcontent : ¬ ['*', '/'] <:+: content) :
    TakenAs .multilineComment front ('/' :: '*' :: (content ++ ['*', '/'])) rest := by
  have hle : (front ++ ['/', '*']).width ≤ (front ++ ['/', '*'] ++ content).width := by
    rw [Text.width_append (front ++ ['/', '*'])]
    exact Nat.le_add_right _ _
  have hline : '/' :: '*' :: (content ++ ['*', '/']) ++ rest =
      '/' :: '*' :: (content ++ '*' :: '/' :: rest) := by simp
  have hbehind : front ++ '/' :: '*' :: (content ++ ['*', '/']) =
      front ++ ['/', '*'] ++ content ++ ['*', '/'] := by simp
  have haccepts : accepts .multilineComment Label.blockComment = true := by decide
  intro run hrun
  rw [hline, hbehind, takeAll_comment_opener hrun,
    takeAll_comment_content grounded_comment rfl (commentContent?_of_unclosed hcontent rest),
    takeAll_comment_closer hle]
  refine ⟨_, _, ?_, unites_comment hle, rfl, rfl, haccepts⟩
  simp

/-- The grammar takes a line comment as a whole. -/
theorem takenAs_lineComment (hcontent : '\n' ∉ content) :
    TakenAs .lineComment front ('/' :: '/' :: content) [] := by
  have hfound := @foundAt_lineComment front content _ isCode_root hcontent
  refine @takenAs_single front ('/' :: '/' :: content) [] .lineComment 10 (List.cons_ne_nil _ _)
    (labels_of_listed (by decide)) [] ?_
  rwa [List.append_nil]

/-! ## Lines of pieces -/

/-- Wherever the tokens stand at the end of a line, normalizing makes a number of units of
them. -/
def Counts (tokens : List ScopedToken) (count : Nat) : Prop :=
  ∀ index, ∃ merged, units index 0 tokens = .ok merged ∧ merged.length = count

theorem counts_of_unites {later : List ScopedToken} (h : Unites tokens merged)
    (hlater : Counts later count) : Counts (tokens ++ later) (merged.length + count) := by
  intro index
  obtain ⟨more, hmore, rfl⟩ := hlater (index + tokens.length)
  exact ⟨merged ++ more, h index later more hmore, List.length_append⟩

theorem counts_nil : Counts [] 0 := fun _ => ⟨[], rfl, rfl⟩

/-- From a position in a line to its end the grammar makes a number of units and leaves open what
the mode says. -/
def Finishes (front text : Text) (count : Nat) (mode : Mode) : Prop :=
  ∀ run : TokenRun, run.stop ≤ front.width → ∃ later stop,
    compiled.takeAll (.between front text) compiled.initialStack run =
      (stackOf mode, ⟨run.tokens ++ later, stop⟩) ∧
    Counts (later ++ gap stop (front ++ text).width (stackOf mode).top.contentScopes) count

theorem unites_gap (start stop : Nat) : Unites (gap start stop rootScopes) [] :=
  unites_blanks fun token hmem => by rw [(mem_gap hmem).2]; rfl

theorem finishes_end : Finishes front [] 0 .default := by
  intro run _
  refine ⟨[], run.stop, ?_, ?_⟩
  · rw [takeAll_end (foundAt_end isCode_root), List.append_nil]
    rfl
  · have hblank := counts_of_unites (unites_gap run.stop (front ++ []).width) counts_nil
    rw [List.append_nil] at hblank
    exact hblank

/-- What is taken as a whole stands in front of the rest of the line. -/
theorem TakenAs.finishes {kind : Kind} (h : TakenAs kind front text rest)
    (hrest : Finishes (front ++ text) rest count mode) :
    Finishes front (text ++ rest) (count + 1) mode := by
  intro run hrun
  obtain ⟨tokens, unit, htake, hunites, _⟩ := h run hrun
  obtain ⟨later, stop, hlater, hcounts⟩ := hrest ⟨_, (front ++ text).width⟩ (Nat.le_refl _)
  refine ⟨gap run.stop front.width rootScopes ++ (tokens ++ later), stop, ?_, ?_⟩
  · rw [htake, hlater]
    simp
  · have hunit := counts_of_unites hunites hcounts
    have hall := counts_of_unites (unites_gap run.stop front.width) hunit
    rw [List.length_nil, Nat.zero_add, List.length_singleton, Nat.add_comm 1] at hall
    simpa using hall

/-- A token inside a comment and the rest of the line behind it make up one unit. -/
theorem counts_comment {start stop last : Nat} (h : stop ≤ last) :
    Counts (⟨start, stop, commentScopes, false⟩ :: gap stop last commentScopes) 1 := by
  intro index
  have hunit := unit_comment index start stop (gap stop last commentScopes)
  have hend := commentEnd_gap h []
  rw [List.append_nil] at hend
  refine ⟨[⟨start, last, commentScopes, true⟩], ?_, rfl⟩
  rw [hend] at hunit
  rw [units_unit (by simp [commentScopes, rootScopes]) hunit (Nat.le_refl _)]
  simp only [commentEnd, Nat.add_zero, List.drop_length]
  rfl

theorem finishes_comment (hcontent : ¬ ['*', '/'] <:+: content) :
    Finishes front ('/' :: '*' :: content) 1 (.inside .comment) := by
  intro run hrun
  refine ⟨gap run.stop front.width rootScopes ++
    [⟨front.width, (front ++ ['/', '*']).width, commentScopes, false⟩],
    (front ++ ['/', '*']).width, ?_, ?_⟩
  · rw [takeAll_comment_opener hrun,
      takeAll_comment_opened grounded_comment rfl (commentContent?_eq_none_iff.mpr hcontent),
      List.append_assoc]
    rfl
  · have hle : (front ++ ['/', '*']).width ≤ (front ++ '/' :: '*' :: content).width := by
      rw [Text.width_append, Text.width_append, Text.width_cons, Text.width_cons, Text.width_cons,
        Text.width_cons, Text.width_nil]
      omega
    have hall := counts_of_unites (unites_gap run.stop front.width) (@counts_comment front.width _ _ hle)
    rw [List.append_assoc]
    exact hall

/-- The text in front of what is taken next ends in no word, if that stands by itself. -/
theorem memAt_blank (hc : c = ' ' ∨ c = '\t') : wordClass.memAt (front ++ [c]).getLast? = false := by
  refine memAt_blanks ?_ fun hnil => absurd hnil (List.cons_ne_nil _ _)
  simpa [AreBlanks] using hc

/-- The grammar takes the pieces of a line of code. -/
theorem finishes_code {apart : Bool} (h : CodeLine apart line count mode)
    (hfront : apart = true → wordClass.memAt front.getLast? = false) :
    Finishes front line count mode := by
  induction h generalizing front with
  | done => exact finishes_end
  | @blank _ c line _ _ hc _ ih =>
      have hblank : AreBlanks [c] := by simpa [AreBlanks] using hc
      have hline := @ih (front ++ [c]) fun _ => memAt_blank hc
      intro run hrun
      have hle : run.stop ≤ (front ++ [c]).width := by
        rw [Text.width_append]
        omega
      rw [← List.singleton_append, takeAll_blanks hblank, ← List.append_assoc]
      exact hline run hle
  | item hitem hrest ih =>
      refine (takenAs_item hitem (hrest.follows _) fun _ => hfront rfl).finishes ?_
      exact ih fun happart => by cases happart
  | @comment content rest _ _ hcontent _ ih =>
      have hsplit : '/' :: '*' :: (content ++ '*' :: '/' :: rest) =
          '/' :: '*' :: (content ++ ['*', '/']) ++ rest := by simp
      rw [hsplit]
      exact (takenAs_comment hcontent).finishes (ih fun happart => by cases happart)
  | commentOpened hcontent => exact finishes_comment hcontent
  | @lineComment content hcontent =>
      have hline := (@takenAs_lineComment front content hcontent).finishes finishes_end
      rwa [List.append_nil] at hline

/-- The token of a line that gave none counts for nothing outside of comments. -/
theorem counts_finish (h : Counts run.tokens count) (hmode : mode = .default ∨ 0 < count) :
    Counts (run.finish (stackOf mode).top.contentScopes) count := by
  unfold TokenRun.finish
  split
  next hempty =>
    -- A line without tokens has no pieces, so it lies outside of comments, and there the token that
    -- stands for the line has the scope of the root alone.
    rw [List.isEmpty_iff.mp hempty] at h
    obtain ⟨merged, hmerged, rfl⟩ := h 0
    cases hmerged
    rcases hmode with rfl | hpos
    · have hblank : Unites [⟨0, 0, rootScopes, false⟩] [] :=
        unites_blanks (by simp [rootScopes])
      have hcounts := counts_of_unites hblank counts_nil
      exact hcounts
    · exact absurd hpos (Nat.lt_irrefl 0)
  next => exact h

/-- What is taken from a line, with the rest of the line behind it, makes up its units. -/
theorem normalize_taken {stack : RuleStack} {later : List ScopedToken} {stop : Nat}
    (htake : compiled.takeAll (.between [] line) stack .empty = (stackOf mode, ⟨later, stop⟩))
    (hcounts : Counts (later ++ gap stop line.width (stackOf mode).top.contentScopes) count)
    (hmode : mode = .default ∨ 0 < count) :
    let result := compiled.tokenizeLine line (some stack)
    result.stack = stackOf mode ∧ ∃ merged, normalize result.tokens = .ok merged ∧
      merged.length = count := by
  rw [tokenizeLine_eq, Cursor.ofLine_eq, htake]
  refine ⟨rfl, ?_⟩
  dsimp only
  rw [coverTo_eq]
  exact counts_finish hcounts hmode 0

/-- A line inside a comment is one token, which covers nothing if the line is empty. -/
theorem finish_comment (line : Text) :
    (TokenRun.empty.coverTo line.width commentScopes).finish commentScopes =
      [⟨0, line.width, commentScopes, false⟩] := by
  unfold TokenRun.coverTo
  split
  next hle =>
    rw [Nat.le_zero.mp hle]
    rfl
  next => rfl

/-- Normalizing leaves one unit for each piece on a line, and the rules stay open that the mode
behind the line says. -/
theorem normalize_pieces (h : PieceLine mode line count mode') :
    let result := compiled.tokenizeLine line (some (stackOf mode))
    result.stack = stackOf mode' ∧ ∃ merged, normalize result.tokens = .ok merged ∧
      merged.length = count := by
  cases h with
  | code hcode =>
      have hline := @finishes_code [] _ _ _ _ hcode fun _ => rfl
      obtain ⟨later, stop, htake, hcounts⟩ := hline .empty (Nat.le_refl _)
      exact normalize_taken htake hcounts (hcode.mode_eq.imp_right And.right)
  | inside hline =>
      have htake : compiled.takeAll (.ofLine line) (compiled.initialStack.push commentFrame) .empty =
          (compiled.initialStack.push commentFrame, .empty) := by
        rw [Cursor.ofLine_eq]
        exact takeAll_comment_opened grounded_comment rfl (commentContent?_eq_none_iff.mpr hline)
      have hcounts := @counts_comment 0 _ _ (Nat.le_refl line.width)
      rw [gap, if_pos (Nat.le_refl _)] at hcounts
      rw [tokenizeLine_eq, stackOf, htake]
      refine ⟨rfl, ?_⟩
      dsimp only
      rw [commentFrame, RuleStack.push]
      dsimp only
      rw [finish_comment]
      exact hcounts 0
  | @closing content rest count _ hcontent hrest =>
      have hfront : content ++ '*' :: '/' :: rest = content ++ ['*', '/'] ++ rest := by simp
      have hbehind := @finishes_code (content ++ ['*', '/']) _ _ _ _ hrest fun hnone => by cases hnone
      obtain ⟨later, stop, hlater, hcounts⟩ := hbehind
        ⟨gap 0 content.width commentScopes ++ [commentCloser content],
          (content ++ ['*', '/']).width⟩ (Nat.le_refl _)
      have htake : compiled.takeAll (.between [] (content ++ '*' :: '/' :: rest))
          (stackOf (.inside .comment)) .empty =
            (stackOf mode', ⟨gap 0 content.width commentScopes ++ [commentCloser content] ++ later,
              stop⟩) := by
        rw [stackOf, takeAll_comment_content grounded_comment rfl
          (commentContent?_of_unclosed hcontent rest), List.nil_append,
          takeAll_comment_closer (Nat.zero_le _)]
        exact hlater
      have hall := counts_of_unites (unites_commentEnd content) hcounts
      rw [List.length_singleton, Nat.add_comm, ← hfront, ← List.append_assoc] at hall
      exact normalize_taken htake hall (Or.inr (Nat.succ_pos _))

end TokenConcord.Bundled
