import TokenConcord.Proofs.Bundled.Code
import TokenConcord.Proofs.Lexing.Lines
import TokenConcord.Proofs.Reconcile.Segments
import TokenConcord.Proofs.Reconcile.Steps

/-!
# What stays open between two lines

Between two lines that reconcile under the bundled grammar both sides are inside the same thing:
in code, or in a block comment. A text literal or a quoted identifier that a line leaves open
never gets that far, since the tokens of that line do not normalize: its opening quote lacks the
closing one. So no open rule of the grammar is the one for text literals, and the innermost one is
the one for block comments exactly if the reference lexer is in a comment.
-/

namespace TokenConcord

/-! ## Opening quotes without a closing one -/

/-- The token of an opening quote, and of nothing else that is merged. -/
structure ScopedToken.OpensText (token : ScopedToken) : Prop where
  unmerged : token.merged = false
  labelled : 2 ≤ token.scopes.length
  opens : token.hasScope Label.stringBegin = true
  innermost : token.innermost? ≠ some Label.identifier
  other : ∀ label ∈ [Label.quotedIdentifierBegin, Label.quotedIdentifierEnd, Label.blockComment,
    Label.stringEnd], token.hasScope label = false

namespace Normalize

variable {index openedAt stop count : Nat} {opener : ScopedToken}
  {front tokens out : List ScopedToken}

theorem stringEnd_exists (h : stringEnd openedAt index tokens = .ok (stop, count)) :
    ∃ token ∈ tokens, token.hasScope Label.stringEnd = true := by
  obtain ⟨inner, closer, later, rfl, -, hcloser, -⟩ := stringEnd_ok h
  exact ⟨closer, by simp, hcloser⟩

/-- A quoted identifier takes up its content and its end alone. -/
theorem quotedIdentifier_length {token merged : ScopedToken}
    (hidentifier : opener.innermost? ≠ some Label.identifier)
    (hend : opener.hasScope Label.quotedIdentifierEnd = false)
    (h : quotedIdentifier index token (front ++ opener :: tokens) = .ok (merged, count)) :
    count ≤ front.length := by
  obtain ⟨content, closer, rest, htokens, hcontent, hcloser, hunit⟩ := quotedIdentifier_ok h
  cases hunit
  match front with
  | [] =>
      cases htokens
      exact absurd hcontent hidentifier
  | [_] =>
      cases htokens
      rw [hend] at hcloser
      cases hcloser
  | _ :: _ :: front => exact Nat.le_add_left 2 _

/-- A unit that takes up an opening quote behind its first token is a string with its end behind
the quote. -/
theorem unit_exists_behind {token merged : ScopedToken} (hopener : opener.OpensText)
    (h : unit index token (front ++ opener :: tokens) = .ok (merged, count))
    (hcount : front.length < count) : ∃ token ∈ tokens, token.hasScope Label.stringEnd = true := by
  cases begins token with
  | single _ unit_eq =>
      cases (unit_eq _ _).symm.trans h
      cases hcount
  | quotedIdentifier _ _ unit_eq =>
      have hend : opener.hasScope Label.quotedIdentifierEnd = false := hopener.other _ (by simp)
      have hle := quotedIdentifier_length hopener.innermost hend ((unit_eq _ _).symm.trans h)
      exact absurd hle (Nat.not_le.mpr hcount)
  | string _ _ unit_eq =>
      obtain ⟨stop, hend, -⟩ := string_ok ((unit_eq _ _).symm.trans h)
      rcases stringEnd_stands (hopener.other _ (by simp)) hend with hle | ⟨-, hbehind⟩
      · exact absurd hle (Nat.not_le.mpr hcount)
      · exact hbehind
  | comment _ _ unit_eq =>
      cases (unit_eq _ _).symm.trans h
      have hcomment := (blockComment_takes hcount).2
      rw [hopener.other _ (by simp)] at hcomment
      cases hcomment

/-- Where tokens normalize each of them begins a unit or a blank, or a unit that begins in front
of it takes it up. -/
theorem units_begin_or_inside (h : units index 0 (front ++ opener :: tokens) = .ok out) :
    (∃ index out, units index 0 (opener :: tokens) = .ok out) ∨
      ∃ index token between merged count,
        unit index token (between ++ opener :: tokens) = .ok (merged, count) ∧
          between.length < count := by
  induction hlength : front.length using Nat.strongRecOn generalizing front index out with
  | ind length ih =>
      subst hlength
      cases front with
      | nil => exact Or.inl ⟨index, out, h⟩
      | cons token front =>
          rw [List.cons_append] at h
          by_cases hblank : token.scopes.length ≤ 1
          · rw [units_blank hblank] at h
            exact ih front.length (Nat.lt_succ_self _) h rfl
          · obtain ⟨merged, count, later, hunit, hrest, rfl⟩ :=
              units_behind_ok (Nat.lt_of_not_le hblank) h
            rcases Nat.lt_or_ge front.length count with hcount | hcount
            · exact Or.inr ⟨index, token, front, merged, count, hunit, hcount⟩
            · rw [List.drop_append_of_le_length hcount] at hrest
              refine ih (front.drop count).length ?_ hrest rfl
              rw [List.length_drop, List.length_cons]
              omega

/-- Behind an opening quote the tokens that normalize have a closing one. -/
theorem units_exists_behind (hopener : opener.OpensText)
    (h : units index 0 (front ++ opener :: tokens) = .ok out) :
    ∃ token ∈ tokens, token.hasScope Label.stringEnd = true := by
  rcases units_begin_or_inside h with ⟨index, out, h⟩ | ⟨_, _, _, _, _, hunit, hcount⟩
  · have hbegin : opener.hasScope Label.quotedIdentifierBegin = false := hopener.other _ (by simp)
    have heq : unit index opener tokens = string index opener tokens := by
      simp [unit, hopener.unmerged, hbegin, hopener.opens]
    obtain ⟨merged, count, later, hunit, -, -⟩ := units_cons_ok hopener.labelled h
    obtain ⟨stop, hend, -⟩ := string_ok (heq.symm.trans hunit)
    exact stringEnd_exists hend
  · exact unit_exists_behind hopener hunit hcount

end Normalize

/-! ## Lines under the bundled grammar -/

namespace Bundled

open Grammar Lexing

variable {line : Text} {mode : Mode} {stack : RuleStack}

theorem opensText_textOpener {scopes : List String} (h : Plain scopes) (front : Text) :
    (textOpener scopes front).OpensText where
  unmerged := rfl
  labelled := by simp [textOpener, textScopes]
  opens := by simp [textOpener, ScopedToken.hasScope]
  innermost := by simp [textOpener, ScopedToken.innermost?, Label.stringBegin, Label.identifier]
  other := by
    intro label hmem
    have hlabel : label ∉ ["source.powerquery", "meta.recordexpression.powerquery"] ∧
        label ≠ Label.string ∧ label ≠ Label.stringBegin := by
      revert label
      decide
    have hscopes : label ∉ scopes := fun hscope => hlabel.1 (h label hscope)
    simp [textOpener, textScopes, ScopedToken.hasScope, hscopes, hlabel.2.1, hlabel.2.2]

theorem hasScope_of_inText {scopes : List String} (h : Plain scopes) {token : ScopedToken}
    (htoken : InText scopes token) : token.hasScope Label.stringEnd = false := by
  have hscopes : Label.stringEnd ∉ scopes := fun hscope =>
    absurd (h Label.stringEnd hscope) (by decide)
  have hlabel : Label.stringEnd ≠ Label.string ∧
      Label.stringEnd ≠ "constant.character.escape.quote.powerquery" := by decide
  rcases htoken.2 with hinside | hescape
  · simp [ScopedToken.hasScope, hinside, textScopes, hscopes, hlabel.1]
  · simp [ScopedToken.hasScope, hescape, textScopes, hscopes, hlabel.1, hlabel.2]

/-- The tokens of a line that leaves a text literal open do not normalize. -/
theorem not_normalize_of_stranded
    (h : Stranded (compiled.takeAll (.ofLine line) stack .empty)) (out : List ScopedToken) :
    normalize (compiled.tokenizeLine line (some stack)).tokens ≠ .ok out := by
  intro hnormalize
  obtain ⟨scopes, before, front, after, hplain, htop, htokens, hafter⟩ := h
  have hline : (compiled.tokenizeLine line (some stack)).tokens = before ++
      textOpener scopes front :: (after ++ TokenRun.gap
        (compiled.takeAll (.ofLine line) stack .empty).2.stop line.width (textScopes scopes)) := by
    rw [tokenizeLine_eq]
    dsimp only
    rw [TokenRun.coverTo_eq, htop, TokenRun.finish, htokens]
    simp
  rw [hline] at hnormalize
  obtain ⟨token, hmem, htoken⟩ :=
    Normalize.units_exists_behind (opensText_textOpener hplain front) hnormalize
  have hinside : InText scopes token :=
    (List.mem_append.mp hmem).elim (hafter token) inText_of_mem_gap
  rw [hasScope_of_inText hplain hinside] at htoken
  cases htoken

/-- Both sides are in code, or both in a block comment. -/
inductive Synchronized : Mode → RuleStack → Prop
  | code {stack : RuleStack} : CodeStack stack → Synchronized .default stack
  | comment {stack : RuleStack} :
      CommentStack stack → Synchronized (.inside .comment) stack

theorem synchronized_of_endsIn (h : EndsIn mode (compiled.takeAll (.ofLine line) stack .empty))
    {out : List ScopedToken}
    (hnormalize : normalize (compiled.tokenizeLine line (some stack)).tokens = .ok out) :
    Synchronized mode (compiled.tokenizeLine line (some stack)).stack := by
  match mode with
  | .default => exact .code h
  | .inside .comment => exact .comment h
  | .inside .text => exact absurd hnormalize (not_normalize_of_stranded h out)
  | .inside .quotedIdentifier => exact absurd hnormalize (not_normalize_of_stranded h out)

/-- A line that normalizes and is lexed keeps both sides together. -/
theorem Synchronized.next (h : Synchronized mode stack) (hline : '\n' ∉ line)
    {out : List ScopedToken}
    (hnormalize : normalize (compiled.tokenizeLine line (some stack)).tokens = .ok out)
    {number : Nat} {lexed : LexedLine} (hlex : lexLine line mode number = .ok lexed) :
    Synchronized lexed.mode (compiled.tokenizeLine line (some stack)).stack := by
  refine synchronized_of_endsIn ?_ hnormalize
  cases h with
  | code hstack =>
      obtain ⟨after, hleaves⟩ := exists_leaves hline
      rw [lexLine_code hleaves hlex, Cursor.ofLine_eq]
      exact takeAll_code hleaves hstack (Nat.le_refl _)
  | comment hstack =>
      obtain ⟨code, frame, hcode, hrule, rfl⟩ := hstack
      rw [Cursor.ofLine_eq]
      cases hcontent : commentContent? line with
      | none =>
          rw [lexLine_comment_opened hcontent hlex,
            takeAll_comment_opened (hcode.grounded.push frame) hrule hcontent]
          exact ⟨code, frame, hcode, hrule, rfl⟩
      | some content =>
          obtain ⟨rest, rfl⟩ := commentContent?_eq_some hcontent
          have hrest : '\n' ∉ rest := fun hmem => hline (by simp [hmem])
          obtain ⟨after, hleaves⟩ := exists_leaves hrest
          obtain ⟨run, hrun, htake⟩ := @takeAll_comment_closed _ [] rest content .empty
            (hcode.grounded.push frame) hrule hcontent (Nat.zero_le _)
          rw [lexLine_comment_closed hleaves hcontent hlex, htake, RuleStack.pop_push]
          exact takeAll_code hleaves hcode hrun

end Bundled

/-! ## Whole documents -/

/-- The rule that a frame leaves open stands at a location of the grammar. -/
def Grammar.OpenAt (grammar : Grammar) (location : String) (frame : Frame) : Prop :=
  (grammar.rules[frame.rule]?).map (·.location) = some location

namespace Bundled

theorem openAt_code {frame : Frame} (h : IsCode frame) {location : String}
    (hlocation : location ≠ "grammar" ∧ location ≠ "repository.RecordExpression") :
    ¬ compiled.OpenAt location frame := by
  intro hopen
  rcases h with h | h
  · rw [Grammar.OpenAt, h] at hopen
    exact hlocation.1 (Option.some.inj hopen).symm
  · rw [Grammar.OpenAt, h] at hopen
    exact hlocation.2 (Option.some.inj hopen).symm

theorem openAt_comment {frame : Frame} (h : frame.rule = 1) {location : String} :
    compiled.OpenAt location frame ↔ location = "repository.BlockComment" := by
  rw [Grammar.OpenAt, h]
  exact Option.some_inj.trans eq_comm

/-- What both sides being together says about the mode and the open rules. -/
theorem Synchronized.openAt {mode : Lexing.Mode} {stack : RuleStack}
    (h : Synchronized mode stack) :
    (mode = .default ∨ mode = .inside .comment) ∧
      (∀ frame ∈ stack.top :: stack.below, ¬ compiled.OpenAt "repository.String" frame) ∧
      (mode = .inside .comment ↔ compiled.OpenAt "repository.BlockComment" stack.top) := by
  cases h with
  | code hstack =>
      refine ⟨Or.inl rfl, fun frame hmem => ?_, ?_⟩
      · exact openAt_code (hstack.frames frame hmem).code (by decide)
      · have hnone := @openAt_code _ hstack.top.code "repository.BlockComment" (by decide)
        exact ⟨fun hmode => (by cases hmode), fun hopen => absurd hopen hnone⟩
  | comment hstack =>
      obtain ⟨code, frame, hcode, hrule, rfl⟩ := hstack
      refine ⟨Or.inr rfl, fun other hmem => ?_, ?_⟩
      · rcases List.mem_cons.mp hmem with rfl | hmem
        · exact fun hopen => absurd ((openAt_comment hrule).mp hopen) (by decide)
        · exact openAt_code (hcode.frames other hmem).code (by decide)
      · exact ⟨fun _ => (openAt_comment hrule).mpr rfl, fun _ => rfl⟩

end Bundled

namespace Reconciler

open Outcome

variable {reconciler : Reconciler} {progress progress' : Progress}

/-- A line that is appended is lexed in the mode of the document and sets the next one. -/
theorem append_ok {document document' : Lexing.Document} {line : Text}
    (h : document.append line = .ok document') :
    ∃ lexed, Lexing.lexLine line.dropReturn document.mode (document.lines + 1) = .ok lexed ∧
      document'.mode = lexed.mode := by
  obtain ⟨lexed, hlex, hdocument⟩ := bind_ok_iff.mp h
  rw [← pure_ok_iff.mp hdocument]
  exact ⟨lexed, hlex, rfl⟩

/-- A step that succeeds has normalized the tokens of its line and lexed it, and goes on with
what both leave open. -/
theorem step_ok {line : Text} {report : StepReport}
    (h : reconciler.step progress line = .ok (report, progress')) :
    let raw := reconciler.grammar.tokenizeLine line.dropReturn progress.stack
    ∃ lexed out, normalize raw.tokens = .ok out ∧
      Lexing.lexLine line.dropReturn progress.document.mode (progress.document.lines + 1) =
        .ok lexed ∧
      progress'.stack = some raw.stack ∧ progress'.document.mode = lexed.mode := by
  obtain ⟨units, hunits, document, hdocument, -, hresult⟩ := step_ok_iff.mp h
  obtain ⟨lexed, hlex, hmode⟩ := append_ok hdocument
  obtain ⟨-, rfl⟩ := Prod.mk.inj hresult
  exact ⟨lexed, units, hunits, hlex, rfl, hmode⟩

/-- One step keeps both sides together. -/
theorem step_synchronized (hgrammar : reconciler.grammar = Bundled.compiled) {line : Text}
    (hline : '\n' ∉ line) {report : StepReport}
    (hstep : reconciler.step progress line = .ok (report, progress'))
    (h : Bundled.Synchronized progress.document.mode
      (progress.stack.getD Bundled.compiled.initialStack)) :
    Bundled.Synchronized progress'.document.mode
      (progress'.stack.getD Bundled.compiled.initialStack) := by
  obtain ⟨lexed, out, hnormalize, hlex, hstack, hmode⟩ := step_ok hstep
  rw [hgrammar] at hnormalize hstack
  have htext : '\n' ∉ line.dropReturn := fun hmem => hline (Text.mem_of_mem_dropReturn hmem)
  rw [hstack, hmode]
  exact h.next htext hnormalize hlex

theorem after_synchronized (hgrammar : reconciler.grammar = Bundled.compiled) {lines : List Text}
    (hlines : ∀ line ∈ lines, '\n' ∉ line)
    (h : Bundled.Synchronized progress.document.mode
      (progress.stack.getD Bundled.compiled.initialStack))
    (hafter : reconciler.after progress lines = .ok progress') :
    Bundled.Synchronized progress'.document.mode
      (progress'.stack.getD Bundled.compiled.initialStack) := by
  induction lines generalizing progress with
  | nil =>
      cases hafter
      exact h
  | cons line lines ih =>
      obtain ⟨hline, hlines⟩ := List.forall_mem_cons.mp hlines
      obtain ⟨report, next, hstep, hlast⟩ := after_cons_ok_iff.mp hafter
      exact ih hlines (step_synchronized hgrammar hline hstep h) hlast

/-- Behind lines without line feeds that reconcile step by step under the bundled grammar, the
reference lexer is in code or in a block comment. No frame of the grammar is a text literal,
and the innermost one is a block comment exactly if the lexer is in one. -/
theorem after_continues (reconciler : Reconciler)
    (hgrammar : Bundled.grammar = .ok reconciler.grammar) {lines : List Text}
    (hlines : ∀ line ∈ lines, '\n' ∉ line) {progress : Progress}
    (hafter : reconciler.after .start lines = .ok progress) :
    let stack := progress.stack.getD reconciler.grammar.initialStack
    (progress.document.mode = .default ∨ progress.document.mode = .inside .comment) ∧
      (∀ frame ∈ stack.top :: stack.below,
        ¬ reconciler.grammar.OpenAt "repository.String" frame) ∧
      (progress.document.mode = .inside .comment ↔
        reconciler.grammar.OpenAt "repository.BlockComment" stack.top) := by
  have hcompiled : reconciler.grammar = Bundled.compiled :=
    (Except.ok.inj (Bundled.grammar_eq.symm.trans hgrammar)).symm
  have hstart : Bundled.Synchronized Progress.start.document.mode
      (Progress.start.stack.getD Bundled.compiled.initialStack) := .code Bundled.codeStack_initial
  have hend := after_synchronized hcompiled hlines hstart hafter
  rw [hcompiled]
  exact hend.openAt

/-- A comment that is opened on one line is open behind the next one on both sides. -/
theorem after_continues_comment :
    let reconciler : Reconciler := { grammar := Bundled.compiled, table := .empty }
    ∃ progress, reconciler.after .start [['/', '*'], ['a']] = .ok progress ∧
      progress.document.mode = .inside .comment ∧
      reconciler.grammar.OpenAt "repository.BlockComment"
        (progress.stack.getD reconciler.grammar.initialStack).top := by
  intro reconciler
  have hmode : (reconciler.after .start [['/', '*'], ['a']]).toOption.map (·.document.mode) =
      some (.inside .comment) := by decide
  have hlines : ∀ line ∈ [['/', '*'], ['a']], '\n' ∉ line := by decide
  cases hafter : reconciler.after .start [['/', '*'], ['a']] with
  | error fault =>
      rw [hafter] at hmode
      cases hmode
  | ok progress =>
      rw [hafter] at hmode
      have hcomment : progress.document.mode = .inside .comment := Option.some.inj hmode
      obtain ⟨_, _, hopen⟩ := after_continues reconciler Bundled.grammar_eq hlines hafter
      exact ⟨progress, rfl, hcomment, hopen.mp hcomment⟩

end Reconciler

end TokenConcord
