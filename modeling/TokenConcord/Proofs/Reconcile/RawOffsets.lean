import TokenConcord.Proofs.Bundled.LexemeStarts
import TokenConcord.Proofs.Lexing.History
import TokenConcord.Proofs.Reconcile.Agreement
import TokenConcord.Proofs.Reconcile.FirstUnit

/-!
# Positions compared as each side reports them

The reference lexer counts from the start of the document and the grammar from the start of the
line. Where positions are compared as they are, a line behind the first one reconciles only if
neither side reports anything on it. The first unit of such a line would have to begin further to
the right than the first lexeme does. Inside a record or a comment it begins where the line does.
Elsewhere code would have to pass over the first lexeme, and then the unit has a label that the
table does not accept for it.
-/

namespace TokenConcord

/-! ## The first lexeme of a line -/

namespace Lexing

variable {offset : Nat} {text unread : Text} {span : LexemeSpan} {found : List LexemeSpan}

/-- The first lexeme of a text stands behind blanks. -/
theorem Reading.first (h : Reading offset text (span :: found) unread) :
    ∃ blanks word rest, text = blanks ++ (word ++ rest) ∧ (∀ c ∈ blanks, isBlank c = true) ∧
      firstLexeme? (word ++ rest) = some (span.lexeme, word.length) ∧
      Starts word span.lexeme rest ∧ span.start = offset + blanks.width ∧
      Reading span.stop rest found unread := by
  generalize hspans : span :: found = spans at h
  induction h with
  | done => cases hspans
  | stuck => cases hspans
  | @blank _ c _ _ _ hblank _ ih =>
      obtain ⟨blanks, word, rest, rfl, hblanks, hfirst, hstarts, hstart, hrest⟩ := ih hspans
      refine ⟨c :: blanks, word, rest, rfl, ?_, hfirst, hstarts, ?_, hrest⟩
      · exact List.forall_mem_cons.mpr ⟨hblank, hblanks⟩
      · rw [hstart, Text.width_cons, Nat.add_assoc]
  | lexeme _ hfirst hstarts hrest =>
      cases hspans
      exact ⟨[], _, _, rfl, fun _ hmem => absurd hmem List.not_mem_nil, hfirst, hstarts, rfl, hrest⟩

/-- A quoted identifier that is not closed is the last lexeme of a text. -/
theorem Reading.modeBehind_opened (h : Reading offset text (span :: found) unread)
    (hlexeme : span.lexeme = .quotedIdentifier .opened) :
    modeBehind (span :: found) = .inside .quotedIdentifier := by
  obtain ⟨blanks, word, rest, -, -, -, hstarts, -, hrest⟩ := h.first
  rw [hlexeme] at hstarts
  rcases hstarts.whole_or_opened with hwhole | ⟨construct, -, rfl⟩
  · exact absurd hwhole (Construct.not_whole_opened .quotedIdentifier)
  · rw [hrest.nil_inv.1, modeBehind, List.getLast?_singleton, Option.map_some, hlexeme]
    rfl

theorem Reading.blanks (h : ∀ c ∈ text, isBlank c = true) : Reading offset text [] [] := by
  induction text generalizing offset with
  | nil => exact .done
  | cons c text ih =>
      obtain ⟨hc, htext⟩ := List.forall_mem_cons.mp h
      exact .blank hc (ih htext)

end Lexing

/-! ## The first match of a line -/

namespace Bundled

open Pattern Grammar Lexing

variable {frame : Frame} {front text blanks line : Text} {result : Match}
  {lexeme : Lexeme} {length : Nat} {c : Char}

theorem nextMatch_blanks (h : IsCode frame) (hblanks : ∀ c ∈ blanks, isBlank c = true) :
    compiled.nextMatch frame (.between front (blanks ++ text)) =
      compiled.nextMatch frame (.between (front ++ blanks) text) := by
  induction blanks generalizing front with
  | nil => rw [List.nil_append, List.append_nil]
  | cons c blanks ih =>
      obtain ⟨hc, hblanks⟩ := List.forall_mem_cons.mp hblanks
      rw [List.cons_append, nextMatch_skip (foundAt_blank h hc front _), ih hblanks,
        List.append_assoc, List.singleton_append]

/-- A line of white space gives no unit where the root alone is open, and opens nothing. -/
theorem tokenizeLine_blanks (hblanks : ∀ c ∈ line, isBlank c = true) :
    normalize (compiled.tokenizeLine line (some compiled.initialStack)).tokens = .ok [] ∧
      (compiled.tokenizeLine line (some compiled.initialStack)).stack = compiled.initialStack := by
  have hnext : compiled.nextMatch compiled.initialStack.top (.ofLine line) = none := by
    have hskip := @nextMatch_blanks _ [] [] line isCode_root hblanks
    rw [List.append_nil] at hskip
    rw [Cursor.ofLine_eq, hskip, nextMatch_eq, Cursor.search?_end, foundAt_end isCode_root]
  refine ⟨normalize_of_none hnext, ?_⟩
  rw [Cursor.ofLine_eq] at hnext
  rw [tokenizeLine_eq, Cursor.ofLine_eq, takeAll_of_none hnext]

/-- No rule of code gives a unit the label of a closing bracket. -/
theorem accepts_rightBracket : ∀ rule ∈ codeRules, ∀ label ∈ firstLabels rule.1,
    accepts .rightBracket label = false := by
  decide

/-- The rules for words have no label of a keyword behind a hash sign. -/
theorem accepts_hashKinds : ∀ kind ∈ hashKinds, ∀ id ∈ wordRules.map (·.1) ++ [6],
    ∀ label ∈ firstLabels id, accepts kind label = false := by
  decide

/-- Where a word starts, a rule for words applies. -/
theorem exists_foundAt_word (h : IsCode frame) (hc : isAsciiStart c = true) :
    ∃ id ∈ wordRules.map (·.1) ++ [6], ∃ result,
      compiled.foundAt frame (.between front (c :: text)) = some (.rule id result) := by
  have hrule : (6, identifierPattern) ∈ codeRules := by simp [codeRules]
  have hstart := isIdentifierStart_of_isAsciiStart hc
  obtain ⟨found, hfound⟩ := exists_foundAt_of_matchAt h hrule (matchAt_identifier hstart text)
  have hfirst := hfound
  rw [foundAt_word h hc, firstOf] at hfirst
  obtain ⟨rule, hmem, hresult⟩ := List.exists_of_findSome?_eq_some hfirst
  obtain ⟨result, -, rfl⟩ := Option.map_eq_some_iff.mp hresult
  refine ⟨rule.1, ?_, result, hfound⟩
  rcases List.mem_append.mp hmem with hword | hidentifier
  · obtain ⟨words, hwords, rfl⟩ := List.mem_map.mp hword
    exact List.mem_append_left _ (List.mem_map.mpr ⟨words, hwords, rfl⟩)
  · rw [List.mem_singleton.mp hidentifier]
    simp

/-- The first match in front of a lexeme starts with it, unless the lexeme is a quoted identifier
that is not closed or no label of the match fits it. -/
theorem start_of_nextMatch (h : IsCode frame)
    (hfirst : firstLexeme? (c :: text) = some (lexeme, length))
    {rule : RuleId × Pattern} (hrule : rule ∈ codeRules)
    (hnext : compiled.nextMatch frame (.between front (c :: text)) = some (.rule rule.1 result)) :
    result.start = front.width ∨ lexeme = .quotedIdentifier .opened ∨
      ∀ label ∈ firstLabels rule.1, accepts lexeme.kind label = false := by
  cases hfound : compiled.foundAt frame (.between front (c :: text)) with
  | some found =>
      rw [nextMatch_of_foundAt hfound] at hnext
      cases hnext
      exact Or.inl (findSome?_start hfound)
  | none =>
      rcases passed_over h hfirst hfound with rfl | hopened | ⟨rfl, ⟨d, more, rfl, hd⟩, hkind⟩
      · exact Or.inr (Or.inr (accepts_rightBracket rule hrule))
      · exact Or.inr (Or.inl hopened)
      · -- The word behind the hash sign is found instead.
        obtain ⟨id, hid, other, hother⟩ := @exists_foundAt_word frame (front ++ ['#']) more d h hd
        rw [nextMatch_skip hfound, nextMatch_of_foundAt hother] at hnext
        cases hnext
        refine Or.inr (Or.inr fun label hlabel => ?_)
        exact accepts_hashKinds _ hkind rule.1 hid label hlabel

/-! ## Lines further on in a document -/

variable {stack : RuleStack} {mode : Mode} {number distance : Nat} {lexed : LexedLine}
  {units : List ScopedToken} {table : ClassificationTable}

theorem Synchronized.mode_eq (h : Synchronized mode compiled.initialStack) : mode = .default := by
  cases h with
  | code => rfl
  | comment hcomment =>
      obtain ⟨code, frame, -, hrule, heq⟩ := hcomment
      have htop : compiled.initialStack.top = frame := congrArg RuleStack.top heq
      rw [← htop] at hrule
      cases hrule

/-- Where the root alone is open, the first unit of a line that leaves both sides together begins
with the first lexeme if its label fits. -/
theorem start_of_accepts {first : ScopedToken} {later : List ScopedToken} {token : Token}
    {tokens : List Token} (hsync : Synchronized mode compiled.initialStack) (hline : '\n' ∉ line)
    (hnormalize : normalize (compiled.tokenizeLine line (some compiled.initialStack)).tokens =
      .ok (first :: later))
    (hlex : lexLine line mode number = .ok lexed) (htokens : lexed.tokens = token :: tokens)
    (haccepts : accepts token.kind first.innermost = true) : first.start = token.start := by
  have hbehind := hsync.next hline hnormalize hlex
  obtain rfl := hsync.mode_eq
  cases lexLine_ok_iff.mp hlex with
  | @code _ found hread =>
      obtain ⟨span, spans, rfl, rfl, -⟩ := List.map_eq_cons_iff.mp htokens
      -- Behind a quoted identifier that is not closed the two sides would part.
      have hmode : span.lexeme ≠ .quotedIdentifier .opened := by
        intro hopened
        rw [hread.modeBehind_opened hopened] at hbehind
        cases hbehind
      obtain ⟨blanks, word, rest, rfl, hblanks, hfirst, hstarts, hstart, -⟩ := hread.first
      obtain ⟨c, tail, rfl⟩ := List.exists_cons_of_ne_nil hstarts.ne_nil
      obtain ⟨rule, hrule, result, hnext, hunit, hlabel⟩ := first_of_root hnormalize
      rw [Cursor.ofLine_eq, nextMatch_blanks isCode_root hblanks] at hnext
      rcases start_of_nextMatch isCode_root hfirst hrule hnext with heq | hopened | hunfit
      · rw [hunit, heq, hstart]
        simp
      · exact absurd hopened hmode
      · rw [hunfit _ hlabel] at haccepts
        cases haccepts

/-- A line further on in a document whose positions agree as they are is empty on both sides. -/
theorem nothing_of_agrees (htable : ClassificationTable.standard = .ok table)
    (hreach : compiled.Reachable stack) (hsync : Synchronized mode stack) (hline : '\n' ∉ line)
    (hnormalize : normalize (compiled.tokenizeLine line (some stack)).tokens = .ok units)
    (hlex : lexLine line mode number = .ok lexed) (hdistance : 0 < distance)
    (hagrees : List.Forall₂ (Agrees table) units (lexed.tokens.map (·.shift distance))) :
    units = [] ∧ lexed.tokens = [] := by
  generalize htokens : lexed.tokens = tokens at hagrees
  cases tokens with
  | nil =>
      cases hagrees
      exact ⟨rfl, rfl⟩
  | cons token tokens =>
      rw [List.map_cons] at hagrees
      cases hagrees with
      | cons hfirst hlater =>
          -- The token begins at the distance or behind it, and the unit does not.
          have hstart : _ = distance + token.start := hfirst.1
          exfalso
          by_cases hinside : stack = compiled.initialStack
          · subst hinside
            have hfits := (agrees_iff_fits htable).mp hfirst
            have hsame := start_of_accepts hsync hline hnormalize hlex htokens hfits.2.2
            omega
          · have hzero := first_start_inside hreach hinside hnormalize
            omega

end Bundled

/-! ## Whole documents -/

open Lexing Outcome

/-- Each line in turn gives no unit and no token, with the rules and the mode that the line before
it leaves open. The number is that of the first line. -/
inductive YieldNothing (grammar : Grammar) : RuleStack → Mode → Nat → List Text → Prop
  | nil {stack : RuleStack} {mode : Mode} {number : Nat} : YieldNothing grammar stack mode number []
  | cons {stack : RuleStack} {mode next : Mode} {number : Nat} {line : Text} {lines : List Text} :
      normalize (grammar.tokenizeLine line.dropReturn (some stack)).tokens = .ok [] →
      lexLine line.dropReturn mode number = .ok ⟨[], next⟩ →
      YieldNothing grammar (grammar.tokenizeLine line.dropReturn (some stack)).stack next
        (number + 1) lines →
        YieldNothing grammar stack mode number (line :: lines)

/-- Where both sides stand behind one more line, with the rules that it leaves open. -/
def Progress.behind (progress : Progress) (stack : RuleStack) (line : Text) (lexed : LexedLine) :
    Progress where
  stack := some stack
  document :=
    { tokens := progress.document.tokens ++
        lexed.tokens.map (·.shift progress.document.nextStart)
      mode := lexed.mode
      lines := progress.document.lines + 1
      nextStart := progress.document.nextStart + line.width + 1 }
  lines := progress.lines + 1

/-- Both sides stand together in front of the line with the number. -/
structure Progress.Standing (progress : Progress) (stack : RuleStack) (mode : Mode)
    (number : Nat) : Prop where
  stack_eq : progress.stack.getD Bundled.compiled.initialStack = stack
  mode_eq : progress.document.mode = mode
  number_eq : progress.document.lines + 1 = number
  reachable : Bundled.compiled.Reachable stack
  synchronized : Bundled.Synchronized mode stack

namespace Progress.Standing

variable {progress : Progress} {stack : RuleStack} {mode : Mode} {number : Nat} {line : Text}
  {lexed : LexedLine} {units : List ScopedToken}

theorem start : Progress.start.Standing Bundled.compiled.initialStack .default 1 :=
  ⟨rfl, rfl, rfl, .initial, .code Bundled.codeStack_initial⟩

theorem tokenizeLine_eq (h : progress.Standing stack mode number) (text : Text) :
    Bundled.compiled.tokenizeLine text progress.stack =
      Bundled.compiled.tokenizeLine text (some stack) := by
  rw [← h.stack_eq]
  rfl

/-- A line that normalizes and is lexed keeps both sides together. -/
theorem behind (h : progress.Standing stack mode number) (hline : '\n' ∉ line)
    (hunits : normalize (Bundled.compiled.tokenizeLine line.dropReturn (some stack)).tokens =
      .ok units)
    (hlex : lexLine line.dropReturn mode number = .ok lexed) :
    let opened := Bundled.compiled.tokenizeLine line.dropReturn (some stack)
    (progress.behind opened.stack line lexed).Standing opened.stack lexed.mode (number + 1) := by
  have htext : '\n' ∉ line.dropReturn := fun hmem => hline (Text.mem_of_mem_dropReturn hmem)
  refine ⟨rfl, rfl, ?_, .line _ h.reachable, h.synchronized.next htext hunits hlex⟩
  rw [← h.number_eq]
  rfl

end Progress.Standing

/-- Lines of white space give nothing where the root alone is open. -/
theorem yieldNothing_blanks {number : Nat} {lines : List Text}
    (h : ∀ line ∈ lines, ∀ c ∈ line, isBlank c = true) :
    YieldNothing Bundled.compiled Bundled.compiled.initialStack .default number lines := by
  induction lines generalizing number with
  | nil => exact .nil
  | cons line lines ih =>
      obtain ⟨hline, hlines⟩ := List.forall_mem_cons.mp h
      have hblanks : ∀ c ∈ line.dropReturn, isBlank c = true := fun c hmem =>
        hline c (Text.mem_of_mem_dropReturn hmem)
      obtain ⟨hunits, hstack⟩ := Bundled.tokenizeLine_blanks hblanks
      refine .cons hunits (lexLine_ok_iff.mpr (.code (.blanks hblanks))) ?_
      rw [hstack]
      exact ih hlines

namespace Reconciler

variable {reconciler : Reconciler} {progress next : Progress} {line : Text} {lines : List Text}
  {stack : RuleStack} {mode : Mode} {number : Nat}

/-- Where positions are compared, a step succeeds if the units of its line agree with the tokens
that it adds to the document. -/
theorem step_raw_ok_iff (hgrammar : reconciler.grammar = Bundled.compiled)
    (hoffsets : reconciler.offsets = .raw) (hstanding : progress.Standing stack mode number) :
    (∃ report, reconciler.step progress line = .ok (report, next)) ↔
      let opened := Bundled.compiled.tokenizeLine line.dropReturn (some stack)
      ∃ units lexed, normalize opened.tokens = .ok units ∧
        lexLine line.dropReturn mode number = .ok lexed ∧
        List.Forall₂ (Agrees reconciler.table) units
          (lexed.tokens.map (·.shift progress.document.nextStart)) ∧
        next = progress.behind opened.stack line lexed := by
  have hopened : reconciler.grammar.tokenizeLine line.dropReturn progress.stack =
      Bundled.compiled.tokenizeLine line.dropReturn (some stack) := by
    rw [hgrammar, hstanding.tokenizeLine_eq]
  have hcheck : ∀ comparison, reconciler.check comparison = comparison.checkSame := by
    intro comparison
    rw [check, hoffsets]
  have hsince : ∀ lexed, (progress.behind stack line lexed).document.tokensSince
      progress.document.tokenCount = lexed.tokens.map (·.shift progress.document.nextStart) :=
    fun _ => List.drop_left
  obtain ⟨-, rfl, rfl, -, -⟩ := hstanding
  simp only [step_ok_iff, hopened, hcheck]
  constructor
  · rintro ⟨report, units, hunits, document, hdocument, hsame, hresult⟩
    obtain ⟨lexed, hread, rfl⟩ := Document.append_ok_iff.mp hdocument
    obtain ⟨-, rfl⟩ := Prod.mk.inj hresult
    rw [checkSame_ok_iff] at hsame
    refine ⟨units, lexed, hunits, lexLine_ok_iff.mpr hread, ?_, rfl⟩
    rwa [← hsince lexed]
  · rintro ⟨units, lexed, hunits, hlex, hagrees, rfl⟩
    refine ⟨_, units, hunits, _, Document.append_ok_iff.mpr ⟨lexed, lexLine_ok_iff.mp hlex, rfl⟩,
      ?_, rfl⟩
    rw [checkSame_ok_iff]
    rwa [← hsince lexed] at hagrees

/-- Behind the first line a run in which positions are compared goes on only over lines that give
nothing. -/
theorem after_raw_ok_iff (hgrammar : reconciler.grammar = Bundled.compiled)
    (htable : ClassificationTable.standard = .ok reconciler.table)
    (hoffsets : reconciler.offsets = .raw) (hstanding : progress.Standing stack mode number)
    (hstarted : 0 < progress.document.nextStart) (hlines : ∀ line ∈ lines, '\n' ∉ line) :
    (∃ last, reconciler.after progress lines = .ok last) ↔
      YieldNothing Bundled.compiled stack mode number lines := by
  induction lines generalizing progress stack mode number with
  | nil => exact iff_of_true ⟨progress, rfl⟩ .nil
  | cons line lines ih =>
      obtain ⟨hline, hlines⟩ := List.forall_mem_cons.mp hlines
      constructor
      · rintro ⟨last, hafter⟩
        obtain ⟨report, next, hstep, hlast⟩ := after_cons_ok_iff.mp hafter
        obtain ⟨units, lexed, hunits, hlex, hagrees, rfl⟩ :=
          (step_raw_ok_iff hgrammar hoffsets hstanding).mp ⟨report, hstep⟩
        have htext : '\n' ∉ line.dropReturn := fun hmem => hline (Text.mem_of_mem_dropReturn hmem)
        obtain ⟨rfl, hnone⟩ := Bundled.nothing_of_agrees htable hstanding.reachable
          hstanding.synchronized htext hunits hlex hstarted hagrees
        have hbehind := hstanding.behind hline hunits hlex
        obtain ⟨tokens, after⟩ := lexed
        obtain rfl : tokens = [] := hnone
        exact .cons hunits hlex ((ih hbehind (Nat.succ_pos _) hlines).mp ⟨last, hlast⟩)
      · intro hnothing
        cases hnothing with
        | cons hunits hlex hlater =>
            obtain ⟨report, hstep⟩ := (step_raw_ok_iff hgrammar hoffsets hstanding).mpr
              ⟨[], _, hunits, hlex, .nil, rfl⟩
            have hbehind := hstanding.behind hline hunits hlex
            obtain ⟨last, hlast⟩ := (ih hbehind (Nat.succ_pos _) hlines).mpr hlater
            exact ⟨last, after_cons_ok_iff.mpr ⟨report, _, hstep, hlast⟩⟩

/-- Where positions are compared as they are, a document reconciles under the bundled grammar and
the standard table exactly if its first line does, in number, labels and positions, and neither
side reports anything on the lines behind it. Each line counts without one carriage return at its
end. -/
theorem document_raw_iff (reconciler : Reconciler)
    (hgrammar : Bundled.grammar = .ok reconciler.grammar)
    (htable : ClassificationTable.standard = .ok reconciler.table)
    (hoffsets : reconciler.offsets = .raw) (text : Text) :
    ∃ first later, text.splitLines = first :: later ∧
      let opened := reconciler.grammar.tokenizeLine first.dropReturn
      ((∃ reports, reconciler.document text = .ok reports) ↔
        ∃ units lexed, normalize opened.tokens = .ok units ∧
          lexLine first.dropReturn .default 1 = .ok lexed ∧
          (Comparison.mk first.dropReturn units lexed.tokens reconciler.table).checkSame = .ok () ∧
          YieldNothing reconciler.grammar opened.stack lexed.mode 2 later) := by
  have hcompiled : reconciler.grammar = Bundled.compiled :=
    (Except.ok.inj (Bundled.grammar_eq.symm.trans hgrammar)).symm
  obtain ⟨first, later, hsplit⟩ := List.exists_cons_of_ne_nil (Text.splitLines_ne_nil text)
  have hlines : ∀ line ∈ first :: later, '\n' ∉ line := fun line hmem =>
    Text.not_mem_of_mem_splitLines (hsplit ▸ hmem)
  obtain ⟨hfirst, hlater⟩ := List.forall_mem_cons.mp hlines
  -- The first line is the only one on which both sides count from the same place.
  have hshift : ∀ tokens : List Token,
      tokens.map (·.shift Progress.start.document.nextStart) = tokens := by
    intro tokens
    simp [Token.shift, Progress.start, Document.empty]
  refine ⟨first, later, hsplit, ?_⟩
  rw [document, hsplit, steps_isOk_iff, hcompiled]
  constructor
  · rintro ⟨last, hafter⟩
    obtain ⟨report, next, hstep, hlast⟩ := after_cons_ok_iff.mp hafter
    obtain ⟨units, lexed, hunits, hlex, hagrees, rfl⟩ :=
      (step_raw_ok_iff hcompiled hoffsets .start).mp ⟨report, hstep⟩
    have hbehind := Progress.Standing.start.behind hfirst hunits hlex
    rw [hshift] at hagrees
    exact ⟨units, lexed, hunits, hlex, checkSame_ok_iff.mpr hagrees,
      (after_raw_ok_iff hcompiled htable hoffsets hbehind (Nat.succ_pos _) hlater).mp ⟨last, hlast⟩⟩
  · rintro ⟨units, lexed, hunits, hlex, hsame, hnothing⟩
    have hagrees := checkSame_ok_iff.mp hsame
    rw [← hshift lexed.tokens] at hagrees
    obtain ⟨report, hstep⟩ := (step_raw_ok_iff hcompiled hoffsets .start).mpr
      ⟨units, lexed, hunits, hlex, hagrees, rfl⟩
    have hbehind := Progress.Standing.start.behind hfirst hunits hlex
    obtain ⟨last, hlast⟩ :=
      (after_raw_ok_iff hcompiled htable hoffsets hbehind (Nat.succ_pos _) hlater).mpr hnothing
    exact ⟨last, after_cons_ok_iff.mpr ⟨report, _, hstep, hlast⟩⟩

/-- A document of white space reconciles. One of two comments does not, since the second comment
begins further on in the document than on its line. -/
theorem document_raw_iff_comments :
    ∃ table, ClassificationTable.standard = .ok table ∧
      let reconciler : Reconciler := { grammar := Bundled.compiled, table, offsets := .raw }
      (∃ reports, reconciler.document ['\n', ' '] = .ok reports) ∧
        ¬ ∃ reports, reconciler.document ['/', '*', '*', '/', '\n', '/', '*', '*', '/'] =
          .ok reports := by
  cases htable : ClassificationTable.standard with
  | error fault =>
      have hok : ClassificationTable.standard.isOk = true := by decide
      rw [htable] at hok
      cases hok
  | ok table =>
      refine ⟨table, rfl, ?_, ?_⟩
      · obtain ⟨first, later, hsplit, hiff⟩ := document_raw_iff
          { grammar := Bundled.compiled, table, offsets := .raw } Bundled.grammar_eq htable rfl
          ['\n', ' ']
        have hlines : Text.splitLines ['\n', ' '] = [[], [' ']] := by decide
        rw [hlines] at hsplit
        cases hsplit
        obtain ⟨hunits, hstack⟩ := @Bundled.tokenizeLine_blanks [] fun _ hmem => by cases hmem
        have hnothing := @yieldNothing_blanks 2 [[' ']] (by decide)
        rw [← hstack] at hnothing
        exact hiff.mpr ⟨[], ⟨[], .default⟩, hunits, rfl, rfl, hnothing⟩
      · obtain ⟨first, later, hsplit, hiff⟩ := document_raw_iff
          { grammar := Bundled.compiled, table, offsets := .raw } Bundled.grammar_eq htable rfl
          ['/', '*', '*', '/', '\n', '/', '*', '*', '/']
        have hlines : Text.splitLines ['/', '*', '*', '/', '\n', '/', '*', '*', '/'] =
            [['/', '*', '*', '/'], ['/', '*', '*', '/']] := by decide
        rw [hlines] at hsplit
        cases hsplit
        intro hreports
        obtain ⟨units, lexed, -, hlex, -, hnothing⟩ := hiff.mp hreports
        have hcomment : ∀ number, lexLine ['/', '*', '*', '/'] .default number =
            .ok ⟨[⟨.multilineComment, 0, 4⟩], .default⟩ := fun _ => rfl
        have hdrop : Text.dropReturn ['/', '*', '*', '/'] = ['/', '*', '*', '/'] := by decide
        rw [hdrop, hcomment] at hlex
        cases hlex
        cases hnothing with
        | cons _ hlater _ =>
            rw [hdrop, hcomment] at hlater
            cases hlater

end Reconciler

end TokenConcord
