import TokenConcord.Proofs.Bundled.Frames
import TokenConcord.Proofs.Grammar.Coverage
import TokenConcord.Reconcile.Normalize

/-!
# Through text literals and comments

An opened text literal goes on to the quote that closes it for the reference lexer too, and
takes the whole line if there is none. All its tokens carry the label of a text literal, and
only the last one of a closed literal carries the label of its end. A block comment goes on in
the same way to its first closer.
-/

namespace TokenConcord

/-! ## Covering -/

namespace TokenRun

/-- The token that covers a gap, if there is one. -/
def gap (start stop : Nat) (scopes : List String) : List ScopedToken :=
  if stop ≤ start then [] else [{ start, stop, scopes }]

theorem coverTo_eq (run : TokenRun) (stop : Nat) (scopes : List String) :
    run.coverTo stop scopes = ⟨run.tokens ++ gap run.stop stop scopes, max run.stop stop⟩ := by
  unfold TokenRun.coverTo gap
  split
  next h => rw [List.append_nil, Nat.max_eq_left h]
  next h => rw [Nat.max_eq_right (Nat.le_of_lt (Nat.lt_of_not_le h))]

theorem mem_gap {start stop : Nat} {scopes : List String} {token : ScopedToken}
    (h : token ∈ gap start stop scopes) : token.merged = false ∧ token.scopes = scopes := by
  unfold gap at h
  split at h
  · cases h
  · rw [List.mem_singleton.mp h]
    exact ⟨rfl, rfl⟩

end TokenRun

/-- Without rules for numbered groups a match is covered as a whole. -/
theorem coverMatch_whole (found : Match) (base : List String) {rules : List CaptureRule}
    (h : rules.filter (·.index != 0) = []) (run : TokenRun) :
    coverMatch found base rules run = run.coverTo found.stop.offset
      (base ++ (rules.filter (·.index == 0)).flatMap (·.scopes)) := by
  rw [coverMatch, h]
  rfl

/-- A match that consumes something is one token behind the gap in front of it. -/
theorem coverMatch_gap {run : TokenRun} {front text : Text} (hrun : run.stop ≤ front.width)
    (htext : text ≠ []) (outer base : List String) {rules : List CaptureRule}
    (h : rules.filter (·.index != 0) = []) (rest : Text) (captures : Captures) :
    coverMatch ⟨front.width, .between (front ++ text) rest, captures⟩ base rules
        (run.coverTo front.width outer) =
      ⟨run.tokens ++ TokenRun.gap run.stop front.width outer ++
        [⟨front.width, (front ++ text).width,
          base ++ (rules.filter (·.index == 0)).flatMap (·.scopes), false⟩],
        (front ++ text).width⟩ := by
  have hwidth := front.width_lt_append htext
  rw [coverMatch_whole _ _ h, TokenRun.coverTo_eq, TokenRun.coverTo_eq]
  simp only [Cursor.between_offset, Nat.max_eq_right hrun, Nat.max_eq_right (Nat.le_of_lt hwidth)]
  rw [TokenRun.gap.eq_1 front.width, if_neg (Nat.not_le.mpr hwidth)]

namespace Bundled

open Grammar Lexing TokenRun Pattern

variable {stack : RuleStack} {front text rest content : Text} {run : TokenRun}
  {scopes : List String}

theorem grounded {stack : RuleStack} (h : stack.bottom.rule = root) :
    compiled.Grounded stack := by
  rw [Grounded, closer?, h]
  rfl

/-! ## Text literals -/

/-- Scopes of a text literal inside something with the given scopes. -/
def textScopes (scopes : List String) : List String := scopes ++ [Label.string]

/-- What an open text literal leaves on the rules. -/
def textFrame (scopes : List String) : Frame := ⟨20, textScopes scopes, textScopes scopes⟩

/-- The token lies inside a text literal. -/
def InText (scopes : List String) (token : ScopedToken) : Prop :=
  token.merged = false ∧ (token.scopes = textScopes scopes ∨
    token.scopes = textScopes scopes ++ ["constant.character.escape.quote.powerquery"])

/-- The token of the closing quote behind a text. -/
def textCloser (scopes : List String) (front : Text) : ScopedToken :=
  ⟨front.width, (front ++ ['"']).width, textScopes scopes ++ [Label.stringEnd], false⟩

theorem inText_of_mem_gap {start stop : Nat} {token : ScopedToken}
    (h : token ∈ gap start stop (textScopes scopes)) : InText scopes token :=
  ⟨(mem_gap h).1, Or.inl (mem_gap h).2⟩

theorem takeAll_text_char (hground : compiled.Grounded stack)
    (htop : stack.top = textFrame scopes) {c : Char} (hc : c ≠ '"') :
    compiled.takeAll (.between front (c :: text)) stack run =
      compiled.takeAll (.between (front ++ [c]) text) stack run := by
  refine takeAll_skip hground (foundAt_text_none ?_ fun hquote => ?_)
  · rw [htop]
    rfl
  · cases hquote
    exact hc rfl

theorem takeAll_text_escape (hground : compiled.Grounded stack)
    (htop : stack.top = textFrame scopes) :
    ∃ inner, (∀ token ∈ inner, InText scopes token) ∧
      compiled.takeAll (.between front ('"' :: '"' :: text)) stack run =
        compiled.takeAll (.between (front ++ ['"', '"']) text) stack
          ⟨run.tokens ++ inner, max run.stop (front ++ ['"', '"']).width⟩ := by
  have hrule : stack.top.rule = 20 := by rw [htop]; rfl
  have hcontent : stack.top.contentScopes = textScopes scopes := by rw [htop]; rfl
  refine ⟨gap run.stop front.width (textScopes scopes) ++
    gap (max run.stop front.width) (front ++ ['"', '"']).width
      (textScopes scopes ++ ["constant.character.escape.quote.powerquery"]), ?_, ?_⟩
  · intro token hmem
    rcases List.mem_append.mp hmem with hmem | hmem
    · exact inText_of_mem_gap hmem
    · exact ⟨(mem_gap hmem).1, Or.inr (mem_gap hmem).2⟩
  · rw [takeAll_found hground (foundAt_text_escape hrule), take_single rfl,
      coverMatch_whole _ _ rfl, coverTo_eq, coverTo_eq, hcontent]
    simp [Found.result, List.append_assoc, Nat.max_assoc]

theorem takeAll_text_closer (hground : compiled.Grounded stack)
    (htop : stack.top = textFrame scopes) (hrest : ¬ QuoteNext rest)
    (hrun : run.stop ≤ front.width) :
    ∃ inner, (∀ token ∈ inner, InText scopes token) ∧
      compiled.takeAll (.between front ('"' :: rest)) stack run =
        compiled.takeAll (.between (front ++ ['"']) rest) stack.pop
          ⟨run.tokens ++ inner ++ [textCloser scopes front], (front ++ ['"']).width⟩ := by
  have hrule : stack.top.rule = 20 := by rw [htop]; rfl
  have hname : stack.top.nameScopes = textScopes scopes := by rw [htop]; rfl
  have hcontent : stack.top.contentScopes = textScopes scopes := by rw [htop]; rfl
  refine ⟨gap run.stop front.width (textScopes scopes), fun token => inText_of_mem_gap, ?_⟩
  have hcaptures : compiled.closerCaptures stack.top = [⟨0, [Label.stringEnd]⟩] := by
    rw [closerCaptures, hrule]
    rfl
  rw [takeAll_found hground (foundAt_text_closer hrule hrest), take_closer, hcaptures, hname,
    hcontent, coverMatch_gap hrun (List.cons_ne_nil _ _) _ _ rfl]
  rfl

/-- An opened text literal goes on through quoted text to its closing quote. -/
theorem takeAll_text_closed (hground : compiled.Grounded stack)
    (htop : stack.top = textFrame scopes) (hcontent : Quoted content)
    (hrest : ¬ QuoteNext rest) (hrun : run.stop ≤ front.width) :
    ∃ inner, (∀ token ∈ inner, InText scopes token) ∧
      compiled.takeAll (.between front (content ++ '"' :: rest)) stack run =
        compiled.takeAll (.between (front ++ content ++ ['"']) rest) stack.pop
          ⟨run.tokens ++ inner ++ [textCloser scopes (front ++ content)],
            (front ++ content ++ ['"']).width⟩ := by
  induction hcontent generalizing front run with
  | nil => simpa using takeAll_text_closer hground htop hrest hrun
  | @char c content hc _ ih =>
      have hle : run.stop ≤ (front ++ [c]).width := by
        rw [Text.width_append]
        omega
      obtain ⟨inner, hinner, htake⟩ := ih hle
      refine ⟨inner, hinner, ?_⟩
      rw [List.cons_append, takeAll_text_char hground htop hc, htake]
      simp
  | @pair content _ ih =>
      obtain ⟨escape, hescape, htake⟩ :=
        @takeAll_text_escape stack front (content ++ '"' :: rest) run scopes hground htop
      have hle : run.stop ≤ (front ++ ['"', '"']).width := by
        rw [Text.width_append]
        omega
      -- The doubled quote may end behind what the run covers, so the bound holds again.
      obtain ⟨inner, hinner, hlater⟩ := @ih (front ++ ['"', '"'])
        ⟨run.tokens ++ escape, max run.stop (front ++ ['"', '"']).width⟩
        (Nat.max_le.mpr ⟨hle, Nat.le_refl _⟩)
      refine ⟨escape ++ inner, ?_, ?_⟩
      · exact fun token hmem => (List.mem_append.mp hmem).elim (hescape token) (hinner token)
      · rw [List.cons_append, List.cons_append, htake, hlater]
        simp

/-- An opened text literal without a closing quote takes the rest of the line. -/
theorem takeAll_text_opened (hground : compiled.Grounded stack)
    (htop : stack.top = textFrame scopes) (htext : Quoted text) :
    ∃ inner stop, (∀ token ∈ inner, InText scopes token) ∧
      compiled.takeAll (.between front text) stack run = (stack, ⟨run.tokens ++ inner, stop⟩) := by
  induction htext generalizing front run with
  | nil =>
      refine ⟨[], run.stop, fun _ hmem => absurd hmem List.not_mem_nil, ?_⟩
      rw [takeAll_end (foundAt_text_none (by rw [htop]; rfl) fun hquote => by cases hquote)]
      simp
  | char hc _ ih =>
      rw [takeAll_text_char hground htop hc]
      exact ih
  | pair _ ih =>
      obtain ⟨escape, hescape, htake⟩ := takeAll_text_escape hground htop
      obtain ⟨inner, stop, hinner, hlater⟩ := ih
      rw [htake, hlater]
      refine ⟨escape ++ inner, stop, ?_, by simp⟩
      exact fun token hmem => (List.mem_append.mp hmem).elim (hescape token) (hinner token)

/-! ## Block comments -/

/-- Nothing is found inside a block comment in front of its first closer. -/
theorem takeAll_comment_content (hground : compiled.Grounded stack) (hrule : stack.top.rule = 1)
    (hcontent : commentContent? (content ++ '*' :: '/' :: rest) = some content) :
    compiled.takeAll (.between front (content ++ '*' :: '/' :: rest)) stack run =
      compiled.takeAll (.between (front ++ content) ('*' :: '/' :: rest)) stack run := by
  induction content generalizing front with
  | nil => rw [List.append_nil, List.nil_append]
  | cons c content ih =>
      have hcloser : ¬ CloserNext (c :: content ++ '*' :: '/' :: rest) := by
        rintro ⟨more, hmore⟩
        rw [← hmore] at hcontent
        cases hcontent
      rw [List.cons_append] at hcloser hcontent
      rw [commentContent?_char hcloser] at hcontent
      obtain ⟨inner, hinner, heq⟩ := Option.map_eq_some_iff.mp hcontent
      cases heq
      rw [List.cons_append, takeAll_skip hground (foundAt_comment_none hrule hcloser), ih hinner]
      simp

/-- The closer of a block comment is one token behind the gap in front of it. -/
theorem takeAll_comment_end (hground : compiled.Grounded stack) (hrule : stack.top.rule = 1)
    (hrun : run.stop ≤ front.width) :
    compiled.takeAll (.between front ('*' :: '/' :: rest)) stack run =
      compiled.takeAll (.between (front ++ ['*', '/']) rest) stack.pop
        ⟨run.tokens ++ gap run.stop front.width stack.top.contentScopes ++
          [⟨front.width, (front ++ ['*', '/']).width,
            stack.top.nameScopes ++ [Label.blockCommentEnd], false⟩],
          (front ++ ['*', '/']).width⟩ := by
  have hcaptures : compiled.closerCaptures stack.top = [⟨0, [Label.blockCommentEnd]⟩] := by
    rw [closerCaptures, hrule]
    rfl
  rw [takeAll_found hground (foundAt_comment_closer hrule), take_closer, hcaptures,
    coverMatch_gap hrun (List.cons_ne_nil _ _) _ _ rfl]
  rfl

/-- An opened block comment goes on to its first closer. -/
theorem takeAll_comment_closed (hground : compiled.Grounded stack) (hrule : stack.top.rule = 1)
    (hcontent : commentContent? (content ++ '*' :: '/' :: rest) = some content)
    (hrun : run.stop ≤ (front ++ content).width) :
    ∃ run', run'.stop ≤ (front ++ content ++ ['*', '/']).width ∧
      compiled.takeAll (.between front (content ++ '*' :: '/' :: rest)) stack run =
        compiled.takeAll (.between (front ++ content ++ ['*', '/']) rest) stack.pop run' := by
  rw [takeAll_comment_content hground hrule hcontent]
  exact takeAll_onward hground hrun (foundAt_comment_closer hrule)

/-- An opened block comment without a closer takes the rest of the line. -/
theorem takeAll_comment_opened (hground : compiled.Grounded stack) (hrule : stack.top.rule = 1)
    (hcontent : commentContent? text = none) :
    compiled.takeAll (.between front text) stack run = (stack, run) := by
  induction text generalizing front with
  | nil =>
      refine takeAll_end (foundAt_comment_none hrule fun ⟨more, hmore⟩ => ?_)
      cases hmore
  | cons c text ih =>
      have hcloser : ¬ CloserNext (c :: text) := by
        rintro ⟨more, hmore⟩
        rw [← hmore] at hcontent
        cases hcontent
      rw [commentContent?_char hcloser] at hcontent
      rw [takeAll_skip hground (foundAt_comment_none hrule hcloser)]
      exact ih (Option.map_eq_none_iff.mp hcontent)

/-! ## Opening -/

theorem startsAmong_quote : StartsAmong '"' [20] := by with_unfolding_all decide

theorem startsAmong_slash : StartsAmong '/' [1, 10, 34] := by decide

theorem foundAt_quote {frame : Frame} (h : IsCode frame) :
    compiled.foundAt frame (.between front ('"' :: text)) =
      some (.rule 20 ⟨front.width, .between (front ++ ['"']) text, []⟩) := by
  have hrules : codeRules.filter (·.1 ∈ [20]) = [(20, literal ['"'])] := rfl
  rw [foundAt_code h startsAmong_quote (by decide), hrules]
  exact firstOf_some (List.cons_ne_nil _ _) (@matchAt_literal front text ['"'])

/-- The token of the opening quote behind a text. -/
def textOpener (scopes : List String) (front : Text) : ScopedToken :=
  ⟨front.width, (front ++ ['"']).width, textScopes scopes ++ [Label.stringBegin], false⟩

/-- A quote in code opens a text literal. -/
theorem takeAll_quote (hground : compiled.Grounded stack) (hcode : IsCode stack.top)
    (hrun : run.stop ≤ front.width) :
    compiled.takeAll (.between front ('"' :: text)) stack run =
      compiled.takeAll (.between (front ++ ['"']) text)
        (stack.push (textFrame stack.top.contentScopes))
        ⟨run.tokens ++ gap run.stop front.width stack.top.contentScopes ++
          [textOpener stack.top.contentScopes front], (front ++ ['"']).width⟩ := by
  rw [takeAll_found hground (foundAt_quote hcode), take_span rfl,
    coverMatch_gap hrun (List.cons_ne_nil _ _) _ _ rfl, List.append_nil]
  rfl

/-- A text literal in code is taken as a whole: its opening quote, what lies inside, and its
closing quote. -/
theorem takeAll_text (hground : compiled.Grounded stack) (hcode : IsCode stack.top)
    (hcontent : Quoted content) (hrest : ¬ QuoteNext rest) (hrun : run.stop ≤ front.width) :
    let scopes := stack.top.contentScopes
    ∃ inner, (∀ token ∈ inner, InText scopes token) ∧
      compiled.takeAll (.between front ('"' :: (content ++ '"' :: rest))) stack run =
        compiled.takeAll (.between (front ++ '"' :: (content ++ ['"'])) rest) stack
          ⟨run.tokens ++ gap run.stop front.width scopes ++ textOpener scopes front ::
            (inner ++ [textCloser scopes (front ++ '"' :: content)]),
            (front ++ '"' :: (content ++ ['"'])).width⟩ := by
  have htop : (stack.push (textFrame stack.top.contentScopes)).top =
      textFrame stack.top.contentScopes := rfl
  rw [takeAll_quote hground hcode hrun]
  obtain ⟨inner, hinner, htake⟩ := @takeAll_text_closed _ (front ++ ['"']) rest content
    ⟨run.tokens ++ gap run.stop front.width stack.top.contentScopes ++
      [textOpener stack.top.contentScopes front], (front ++ ['"']).width⟩
    _ (hground.push _) htop hcontent hrest (Nat.le_refl _)
  refine ⟨inner, hinner, ?_⟩
  rw [htake, RuleStack.pop_push]
  simp

/-- A text literal in code that no quote closes takes the rest of the line. -/
theorem takeAll_quote_opened (hground : compiled.Grounded stack) (hcode : IsCode stack.top)
    (htext : Quoted text) (hrun : run.stop ≤ front.width) :
    let scopes := stack.top.contentScopes
    ∃ inner stop, (∀ token ∈ inner, InText scopes token) ∧
      compiled.takeAll (.between front ('"' :: text)) stack run =
        (stack.push (textFrame scopes), ⟨run.tokens ++ gap run.stop front.width scopes ++
          textOpener scopes front :: inner, stop⟩) := by
  rw [takeAll_quote hground hcode hrun]
  obtain ⟨inner, stop, hinner, htake⟩ := @takeAll_text_opened
    (stack.push (textFrame stack.top.contentScopes)) (front ++ ['"']) text
    ⟨run.tokens ++ gap run.stop front.width stack.top.contentScopes ++
      [textOpener stack.top.contentScopes front], (front ++ ['"']).width⟩
    stack.top.contentScopes (hground.push _) rfl htext
  refine ⟨inner, stop, hinner, ?_⟩
  rw [htake]
  simp

end Bundled

end TokenConcord
