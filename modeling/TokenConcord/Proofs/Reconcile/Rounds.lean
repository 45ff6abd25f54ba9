import TokenConcord.Proofs.Bundled.Items
import TokenConcord.Proofs.Grammar.OpenRules
import TokenConcord.Proofs.Grammar.Scopes
import TokenConcord.Proofs.Reconcile.Composed

/-!
# Rounds under the bundled grammar

What a match adds to the tokens of a line, by what is open where it is looked for. In code it adds
loose tokens, or it opens a text literal, or it is a quoted identifier. Inside a text literal it
adds tokens inside the literal, or it is the closing quote. Inside a block comment it adds loose
tokens. Nothing else is open on lines that some lines in front of them lead to.
-/

namespace TokenConcord

namespace Pattern

/-! ## Groups of a match -/

/-- Between the two cursors only groups with certain indices are recorded. -/
def RecordsOnly (P : Nat → Prop) (cursor : Cursor) (captures : Captures) (cursor' : Cursor)
    (captures' : Captures) : Prop :=
  cursor.Reaches cursor' ∧
    ∃ added, captures' = added ++ captures ∧ ∀ capture ∈ added, P capture.index

theorem stepwiseOver_recordsOnly (P : Nat → Prop) : StepwiseOver P (RecordsOnly P) where
  stay cursor captures := ⟨.refl cursor, [], rfl, fun _ hmem => absurd hmem List.not_mem_nil⟩
  read hrest := ⟨.advance hrest, [], rfl, fun _ hmem => absurd hmem List.not_mem_nil⟩
  record index hindex h := by
    obtain ⟨hreaches, added, rfl, hadded⟩ := h
    exact ⟨hreaches, ⟨index, _, _⟩ :: added, rfl, List.forall_mem_cons.mpr ⟨hindex, hadded⟩⟩
  trans first second := by
    obtain ⟨hreaches, added, rfl, hadded⟩ := first
    obtain ⟨honward, more, rfl, hmore⟩ := second
    exact ⟨hreaches.trans honward, more ++ added, (List.append_assoc ..).symm,
      List.forall_mem_append.mpr ⟨hmore, hadded⟩⟩

end Pattern

namespace Bundled

open Pattern Grammar Lexing TokenRun ScopedToken

variable {stack : RuleStack} {front text rest : Text} {run : TokenRun} {scopes : List String}

/-- The two ends of a quoted identifier are groups of its match, one behind the other. -/
theorem matchAt_quoted_groups {found : Match}
    (h : quotedPattern.matchAt (.between front text) = some found) :
    ∃ opened closed, found.group? 1 = some (front.width, opened) ∧
      found.group? 3 = some (closed, found.stop.offset) ∧ front.width < opened ∧
        opened ≤ closed ∧ closed < found.stop.offset := by
  have hfinds : (quotedPattern.run false [] (.between front text) [] fun stop captures visited =>
      (some (Match.mk front.width stop captures), visited)).Finds found := ⟨∅, h⟩
  rw [quotedPattern, Pattern.run, Pattern.run] at hfinds
  by_cases hopener : ['#', '"'] <+: text
  · obtain ⟨more, rfl⟩ := hopener
    rw [run_literal, Pattern.run, Pattern.run] at hfinds
    obtain ⟨cursor, _, ⟨hreaches, added, rfl, hadded⟩, hfinds⟩ :=
      Carries.runOver (stepwiseOver_recordsOnly fun _ => False) quotedContent
        (fun _ hmem => absurd hmem List.not_mem_nil) _ _ hfinds
    obtain rfl : added = [] := List.eq_nil_iff_forall_not_mem.mpr hadded
    rw [Pattern.run, Pattern.run] at hfinds
    cases hrest : cursor.rest with
    | nil =>
        simp only [hrest] at hfinds
        exact absurd hfinds (Attempt.not_finds_failure _)
    | cons c rest =>
        simp only [hrest] at hfinds
        split at hfinds
        · obtain ⟨_, heq⟩ := hfinds
          cases heq
          refine ⟨_, cursor.offset, rfl, rfl, ?_, hreaches.offset_le, ?_⟩
          · exact front.width_lt_append (List.cons_ne_nil _ _)
          · exact Nat.lt_add_of_pos_right c.utf8Size_pos
        · exact absurd hfinds (Attempt.not_finds_failure _)
  · rw [run_literal_failure hopener] at hfinds
    exact absurd hfinds (Attempt.not_finds_failure _)

/-! ## Tokens by their scopes -/

/-- None of the scopes says whether a line of units is complete. -/
def Clear (scopes : List String) : Prop := ∀ scope ∈ scopes, scope ∉ pairLabels

instance (scopes : List String) : Decidable (Clear scopes) :=
  inferInstanceAs (Decidable (∀ scope ∈ scopes, _))

theorem Clear.append {more : List String} (h : Clear scopes) (hmore : Clear more) :
    Clear (scopes ++ more) := List.forall_mem_append.mpr ⟨h, hmore⟩

theorem loose_of_clear {token : ScopedToken} (h : Clear token.scopes) : token.Loose := by
  intro label hlabel
  rw [hasScope, List.contains_eq_mem, decide_eq_false_iff_not]
  exact fun hmem => h label hmem hlabel

theorem Plain.clear (h : Plain scopes) : Clear scopes := by
  have hclear : Clear ["source.powerquery", "meta.recordexpression.powerquery"] := by decide
  exact fun scope hmem => hclear scope (h scope hmem)

/-- A token of a match is loose if neither the scopes of the match nor those of its captures say
whether a line of units is complete. -/
theorem loose_of_partOf {base : List String} {rules : List CaptureRule} {token : ScopedToken}
    (h : PartOf base rules token) (hbase : Clear base)
    (hrules : ∀ rule ∈ rules, Clear rule.scopes) : token.Loose := by
  obtain ⟨-, more, hscopes, hmore⟩ := h
  refine loose_of_clear ?_
  rw [hscopes]
  refine hbase.append fun scope hmem => ?_
  obtain ⟨rule, hrule, hscope⟩ := hmore scope hmem
  exact hrules rule hrule scope hscope

theorem insideText_of_inText (h : Plain scopes) {token : ScopedToken} (htoken : InText scopes token) :
    token.InsideText := by
  have hstring : Label.string ∈ token.scopes := by
    rcases htoken.2 with hinside | hescape
    · simp [hinside, textScopes]
    · simp [hescape, textScopes]
  have hclear : Clear [Label.string] ∧ Clear ["constant.character.escape.quote.powerquery"] := by
    decide
  refine ⟨loose_of_clear ?_, by simpa [hasScope] using hstring, hasScope_of_inText h htoken⟩
  rcases htoken.2 with hinside | hescape
  · rw [hinside]
    exact h.clear.append hclear.1
  · rw [hescape]
    exact (h.clear.append hclear.1).append hclear.2

/-! ## What is open -/

/-- What an open block comment leaves on the rules. -/
def remarkFrame (scopes : List String) : Frame :=
  ⟨1, scopes ++ [Label.blockComment], scopes ++ [Label.blockComment]⟩

/-- The rules with two ends among those tried at a rule. -/
def opening (id : RuleId) : List RuleId := (compiled.candidates id).filter compiled.staysOpen

theorem opening_eq : opening root = [1, 20, 19] ∧ opening 19 = [1, 20, 19] ∧ opening 20 = [] ∧
    opening 1 = [] := by
  decide

theorem mem_opening {frame outer : Frame} (h : compiled.OpensIn frame outer) :
    frame.rule ∈ opening outer.rule := by
  obtain ⟨hmem, _, _, _, _, _, _, _, _, _, hrule, _, _⟩ := h
  exact List.mem_filter.mpr ⟨hmem, by rw [staysOpen, hrule]⟩

/-- In code opens a block comment, a text literal or a record. -/
theorem opensIn_code {frame outer : Frame} (h : compiled.OpensIn frame outer)
    (houter : IsCode outer) :
    frame = remarkFrame outer.contentScopes ∨ frame = textFrame outer.contentScopes ∨
      frame.rule = 19 ∧
        frame.contentScopes = outer.contentScopes ++ ["meta.recordexpression.powerquery"] := by
  have hmem : frame.rule ∈ [1, 20, 19] := by
    rcases houter with houter | houter
    · rw [← opening_eq.1, ← houter]
      exact mem_opening h
    · rw [← opening_eq.2.1, ← houter]
      exact mem_opening h
  obtain ⟨-, _, _, _, _, _, _, _, _, _, hrule, hname, hcontent⟩ := h
  obtain ⟨id, names, contents⟩ := frame
  dsimp only at hmem hrule hname hcontent ⊢
  simp only [List.mem_cons, List.not_mem_nil, or_false] at hmem
  rcases hmem with rfl | rfl | rfl
  · cases hrule
    rw [List.append_nil] at hcontent
    exact Or.inl (by rw [hcontent, hname]; rfl)
  · cases hrule
    rw [List.append_nil] at hcontent
    exact Or.inr (Or.inl (by rw [hcontent, hname]; rfl))
  · cases hrule
    rw [List.append_nil] at hcontent
    exact Or.inr (Or.inr ⟨rfl, by rw [hcontent, hname]⟩)

/-- On frames that open in one another only code is open, or a text literal or a block comment on
top of it. -/
theorem nested_cases (h : compiled.Nested stack) :
    CodeStack stack ∨ ∃ code, CodeStack code ∧
      (stack = code.push (textFrame code.top.contentScopes) ∨
        stack = code.push (remarkFrame code.top.contentScopes)) := by
  obtain ⟨top, below⟩ := stack
  induction below generalizing top with
  | nil =>
      obtain rfl : top = compiled.rootFrame := h.bottom
      exact Or.inl codeStack_initial
  | cons outer below ih =>
      have hopens : compiled.OpensIn top outer := (List.isChain_cons_cons.mp h.chain).1
      rcases ih outer h.pop with hcode | ⟨code, _, htext | hcomment⟩
      · rcases opensIn_code hopens hcode.top.code with rfl | rfl | ⟨hrule, hcontent⟩
        · exact Or.inr ⟨⟨outer, below⟩, hcode, Or.inr rfl⟩
        · exact Or.inr ⟨⟨outer, below⟩, hcode, Or.inl rfl⟩
        · refine Or.inl (hcode.push ⟨Or.inr hrule, ?_⟩)
          rw [hcontent]
          exact List.forall_mem_append.mpr ⟨hcode.top.plain, by simp⟩
      · obtain ⟨rfl, rfl⟩ := RuleStack.mk.inj htext
        have hmem := mem_opening hopens
        rw [textFrame, opening_eq.2.2.1] at hmem
        cases hmem
      · obtain ⟨rfl, rfl⟩ := RuleStack.mk.inj hcomment
        have hmem := mem_opening hopens
        rw [remarkFrame, opening_eq.2.2.2] at hmem
        cases hmem

/-- The scopes of the ends of the innermost rule hold inside it as well. -/
theorem isPrefix_nameScopes {grammar : Grammar} (h : grammar.Nested stack) :
    stack.top.nameScopes <+: stack.top.contentScopes := by
  have hchain := h.chain
  have hbottom := h.bottom
  obtain ⟨top, below⟩ := stack
  cases below with
  | nil =>
      obtain rfl : top = grammar.rootFrame := hbottom
      exact List.prefix_refl _
  | cons outer below =>
      obtain ⟨⟨_, _, _, _, _, _, _, _, _, _, _, _, hcontent⟩, _⟩ :=
        List.isChain_cons_cons.mp hchain
      rw [hcontent]
      exact List.prefix_append _ _

/-! ## What a round adds -/

variable {found : Found} {token : ScopedToken}

theorem scopes_of_partOf {base : List String} (h : PartOf base [] token) : token.scopes = base := by
  obtain ⟨-, more, hscopes, hmore⟩ := h
  have hnil : more = [] := List.eq_nil_iff_forall_not_mem.mpr fun scope hmem => by
    obtain ⟨rule, hrule, -⟩ := hmore scope hmem
    cases hrule
  rw [hscopes, hnil, List.append_nil]

/-- A token in front of a match is loose in code, and so is one of the match itself unless its
scopes say whether a line of units is complete. -/
theorem loose_of_inFrontOrPart {outer base : List String} {rules : List CaptureRule}
    (h : InFrontOrPart outer base rules token) (houter : Clear outer) (hbase : Clear base)
    (hrules : ∀ rule ∈ rules, Clear rule.scopes) : token.Loose := by
  rcases h with h | h
  · exact loose_of_clear (scopes_of_partOf h ▸ houter)
  · exact loose_of_partOf h hbase hrules

/-- Inside a text literal a round takes an escape, or it takes the closing quote. -/
theorem take_text (htop : stack.top = textFrame scopes) (hplain : Plain scopes)
    (hrun : run.stop ≤ front.width)
    (hnext : compiled.nextMatch stack.top (.between front text) = some found) :
    let next := compiled.take stack run found
    (next.1 = stack ∧ Adds InsideText run next.2) ∨
      next.1 = stack.pop ∧ ∃ inner closer, next.2.tokens = run.tokens ++ (inner ++ [closer]) ∧
        (∀ token ∈ inner, token.InsideText) ∧ closer.Loose ∧
          closer.hasScope Label.stringEnd = true := by
  have hname : stack.top.nameScopes = textScopes scopes := by rw [htop]; rfl
  have hcontent : stack.top.contentScopes = textScopes scopes := by rw [htop]; rfl
  obtain ⟨aim, hmem, before, after, rfl, haim⟩ := exists_aim_of_nextMatch hnext
  obtain ⟨u, rest, rfl, hstart, hstop, hread⟩ := Aim.at?_reads haim
  rw [aims_text (by rw [htop]; rfl), List.mem_pair] at hmem
  rcases hread with ⟨pattern, result, rfl, rfl, hread⟩ | ⟨id, pattern, result, rfl, rfl, _, _⟩
  · rcases hmem with hmem | hmem
    · cases hmem
    · cases hmem
      obtain rfl := reads_literal.mp hread
      obtain ⟨start, stop, captures⟩ := result
      dsimp only [Found.result] at hstart hstop
      subst hstart hstop
      have hbefore : run.stop ≤ (front ++ before).width := by
        rw [Text.width_append]
        omega
      have hcaptures : compiled.closerCaptures stack.top = [⟨0, [Label.stringEnd]⟩] := by
        rw [closerCaptures, htop]
        rfl
      refine Or.inr ⟨rfl, gap run.stop (front ++ before).width (textScopes scopes),
        textCloser scopes (front ++ before), ?_, ?_, ?_, ?_⟩
      · rw [take_closer, hcaptures, hname, hcontent,
          coverMatch_gap hbefore (List.cons_ne_nil _ _) _ _ rfl, List.append_assoc]
        rfl
      · exact fun token hmem => insideText_of_inText hplain (inText_of_mem_gap hmem)
      · have hclear : Clear [Label.string] ∧ Clear [Label.stringEnd] := by decide
        exact loose_of_clear ((hplain.clear.append hclear.1).append hclear.2)
      · simp [hasScope, textCloser]
  · rcases hmem with hmem | hmem
    · cases hmem
      refine Or.inl ⟨by rw [take_stack rfl], (take_rule_adds rfl result).mono fun token htoken => ?_⟩
      rw [hcontent] at htoken
      refine insideText_of_inText hplain ?_
      rcases htoken with htoken | htoken
      · exact ⟨htoken.1, Or.inl (scopes_of_partOf htoken)⟩
      · exact ⟨htoken.1, Or.inr (scopes_of_partOf htoken)⟩
    · cases hmem

/-- Inside a block comment a round takes its end. -/
theorem take_comment (htop : stack.top = remarkFrame scopes) (hplain : Plain scopes)
    (hnext : compiled.nextMatch stack.top (.between front text) = some found) :
    let next := compiled.take stack run found
    next.1 = stack.pop ∧ Adds Loose run next.2 := by
  have hcaptures : compiled.closerCaptures (remarkFrame scopes) = [⟨0, [Label.blockCommentEnd]⟩] :=
    rfl
  have hclear : Clear [Label.blockComment] ∧ Clear [Label.blockCommentEnd] := by decide
  obtain ⟨aim, hmem, _, _, _, haim⟩ := exists_aim_of_nextMatch hnext
  rw [aims_comment (by rw [htop]; rfl), List.mem_singleton] at hmem
  subst hmem
  obtain ⟨result, _, rfl⟩ := Option.map_eq_some_iff.mp haim
  refine ⟨rfl, (take_closer_adds result).mono fun token htoken => ?_⟩
  rw [htop, hcaptures] at htoken
  have hscopes : Clear (remarkFrame scopes).contentScopes := hplain.clear.append hclear.1
  exact loose_of_inFrontOrPart htoken hscopes hscopes (List.forall_mem_singleton.mpr hclear.2)

/-- The rules of code other than those of text literals and quoted identifiers have no scopes that
say whether a line of units is complete. -/
theorem clear_codeRules : ∀ rule ∈ codeRules, rule.1 ∉ [18, 20] →
    (compiled.rules[rule.1]?).any (fun found =>
      decide (Clear found.scopes ∧ ∀ capture ∈ found.captures, Clear capture.scopes)) = true := by
  decide

/-- Only text literals open by the rule of text literals. -/
theorem top_take {id : RuleId} {result : Match} (hid : id ≠ 20) (hstack : stack.top.rule ≠ 20) :
    (compiled.take stack run (.rule id result)).1.top.rule ≠ 20 := by
  unfold Grammar.take
  dsimp only
  split
  · exact hstack
  · exact hid
  · exact hstack

theorem CodeFrame.not_text {frame : Frame} (h : CodeFrame frame) : frame.rule ≠ 20 := by
  rcases h.code with hrule | hrule
  · rw [hrule]
    decide
  · rw [hrule]
    decide

/-- What a round in code adds to the tokens, and whether it opens a text literal. -/
inductive CodeRound (stack : RuleStack) (run : TokenRun) (next : RuleStack × TokenRun) : Prop
  | loose : Adds Loose run next.2 → next.1.top.rule ≠ 20 → CodeRound stack run next
  | text {before : List ScopedToken} {opener : ScopedToken} :
      next.2.tokens = run.tokens ++ (before ++ [opener]) → (∀ token ∈ before, token.Loose) →
      opener.OpensText → next.1 = stack.push (textFrame stack.top.contentScopes) →
      CodeRound stack run next
  | quotedIdentifier {before content : List ScopedToken} {opener closer : ScopedToken} :
      next.2.tokens = run.tokens ++ (before ++ opener :: (content ++ [closer])) →
      (∀ token ∈ before, token.Loose) → opener.OpensIdentifier → closer.ClosesIdentifier →
      (content = [] ∨ ∃ token, content = [token] ∧ token.Loose ∧
        token.innermost? = some Label.identifier) → next.1 = stack → CodeRound stack run next

theorem clear_closerCaptures {frame : Frame} (h : IsCode frame) :
    ∀ rule ∈ compiled.closerCaptures frame, Clear rule.scopes := by
  rcases h with h | h
  · rw [closerCaptures, h]
    decide
  · rw [closerCaptures, h]
    decide

/-- A quote in code opens a text literal. -/
theorem take_quote (hstack : CodeStack stack) (hrun : run.stop ≤ front.width) (rest : Text)
    (captures : Captures) :
    CodeRound stack run (compiled.take stack run
      (.rule 20 ⟨front.width, .between (front ++ ['"']) rest, captures⟩)) := by
  have hplain := hstack.top.plain
  have hbefore : ∀ token ∈ gap run.stop front.width stack.top.contentScopes, token.Loose :=
    fun token hmem => loose_of_clear ((mem_gap hmem).2 ▸ hplain.clear)
  refine .text ?_ hbefore (opensText_textOpener hplain front) ?_
  · rw [take_span rfl, coverMatch_gap hrun (List.cons_ne_nil _ _) _ _ rfl]
    exact List.append_assoc ..
  · rw [take_span rfl, List.append_nil]
    rfl

theorem opensIdentifier_of_plain (h : Plain scopes) (start stop : Nat) :
    OpensIdentifier ⟨start, stop,
      scopes ++ [Label.identifier] ++ [Label.quotedIdentifierBegin], false⟩ where
  unmerged := rfl
  labelled := by simp
  opens := by simp [hasScope]
  innermost := by simp [innermost?, Label.quotedIdentifierBegin, Label.identifier]
  other := by
    intro label hmem
    have hlabel : label ∉ ["source.powerquery", "meta.recordexpression.powerquery"] ∧
        label ≠ Label.identifier ∧ label ≠ Label.quotedIdentifierBegin := by
      revert label
      decide
    have hscopes : label ∉ scopes := fun hscope => hlabel.1 (h label hscope)
    simp [hasScope, hscopes, hlabel.2.1, hlabel.2.2]

theorem closesIdentifier_of_plain (h : Plain scopes) (start stop : Nat) :
    ClosesIdentifier ⟨start, stop,
      scopes ++ [Label.identifier] ++ [Label.quotedIdentifierEnd], false⟩ where
  closes := by simp [hasScope]
  opensNone := by
    have hscopes : Label.quotedIdentifierBegin ∉ scopes := fun hmem =>
      absurd (h _ hmem) (by decide)
    have hlabel : Label.quotedIdentifierBegin ≠ Label.identifier ∧
        Label.quotedIdentifierBegin ≠ Label.quotedIdentifierEnd := by
      decide
    simp [hasScope, hscopes, hlabel.1, hlabel.2]
  innermost := by simp [innermost?, Label.quotedIdentifierEnd, Label.identifier]

/-- What the rule of quoted identifiers matches begins and ends one. -/
theorem take_quotedIdentifier (hstack : CodeStack stack) (hrun : run.stop ≤ front.width)
    {result : Match} (hmatch : quotedPattern.matchAt (.between front text) = some result) :
    CodeRound stack run (compiled.take stack run (.rule 18 result)) := by
  have hplain := hstack.top.plain
  obtain ⟨hstart, -⟩ := matchAt_within hmatch
  obtain ⟨opened, closed, hopening, hclosing, hopened, hle, hstop⟩ := matchAt_quoted_groups hmatch
  have hcover := @coverMatch_ends
    ⟨run.tokens ++ gap run.stop front.width stack.top.contentScopes, front.width⟩ front.width
    opened closed result rfl hopening hclosing hopened hle hstop
    (stack.top.contentScopes ++ [Label.identifier])
  have hbefore : ∀ token ∈ gap run.stop front.width stack.top.contentScopes, token.Loose :=
    fun token hmem => loose_of_clear ((mem_gap hmem).2 ▸ hplain.clear)
  have hcontent : gap opened closed (stack.top.contentScopes ++ [Label.identifier]) = [] ∨
      ∃ token, gap opened closed (stack.top.contentScopes ++ [Label.identifier]) = [token] ∧
        token.Loose ∧ token.innermost? = some Label.identifier := by
    unfold gap
    split
    · exact Or.inl rfl
    · have hclear : Clear [Label.identifier] := by decide
      exact Or.inr ⟨_, rfl, loose_of_clear (hplain.clear.append hclear), by simp [innermost?]⟩
  refine .quotedIdentifier ?_ hbefore (opensIdentifier_of_plain hplain front.width opened)
    (closesIdentifier_of_plain hplain closed result.stop.offset) hcontent ?_
  · rw [take_single rfl, hstart, Cursor.between_offset, coverTo_gap hrun]
    refine (congrArg TokenRun.tokens hcover).trans ?_
    simp
  · rw [take_single rfl]

/-- In code a round takes the end of a record, or it takes what a rule of code matches. -/
theorem take_code (hstack : CodeStack stack) (hname : Clear stack.top.nameScopes)
    (hrun : run.stop ≤ front.width)
    (hnext : compiled.nextMatch stack.top (.between front text) = some found) :
    CodeRound stack run (compiled.take stack run found) := by
  have houter := hstack.top.plain.clear
  obtain ⟨aim, hmem, before, after, rfl, haim⟩ := exists_aim_of_nextMatch hnext
  have hbefore : run.stop ≤ (front ++ before).width := by
    rw [Text.width_append]
    omega
  cases aim with
  | closer pattern =>
      obtain ⟨result, _, rfl⟩ := Option.map_eq_some_iff.mp haim
      refine .loose ((take_closer_adds result).mono fun token htoken => ?_) hstack.pop.top.not_text
      exact loose_of_inFrontOrPart htoken houter hname (clear_closerCaptures hstack.top.code)
  | rule id pattern =>
      obtain ⟨result, hmatch, rfl⟩ := Option.map_eq_some_iff.mp haim
      have hrule : (id, pattern) ∈ codeRules := by
        rcases aim_of_code hstack.top.code hmem with hcloser | ⟨rule, hrule, heq⟩
        · cases hcloser
        · cases heq
          exact hrule
      by_cases hpaired : id ∈ [18, 20]
      · have hrules : codeRules.filter (·.1 ∈ [18, 20]) =
            [(20, literal ['"']), (18, quotedPattern)] := rfl
        have hpair : (id, pattern) ∈ codeRules.filter (·.1 ∈ [18, 20]) :=
          List.mem_filter.mpr ⟨hrule, decide_eq_true hpaired⟩
        rw [hrules, List.mem_pair] at hpair
        rcases hpair with hpair | hpair
        · cases hpair
          obtain ⟨u, rest, rfl, -, hread, hstart, hstop⟩ := nonEmptyAt_reads hmatch
          obtain rfl := reads_literal.mp hread
          obtain ⟨start, stop, captures⟩ := result
          dsimp only at hstart hstop
          subst hstart hstop
          exact take_quote hstack hbefore rest captures
        · cases hpair
          exact take_quotedIdentifier hstack hbefore (Option.filter_eq_some_iff.mp hmatch).1
      · obtain ⟨source, hsource, hclear⟩ := (Option.any_eq_true _ _).mp
          (clear_codeRules _ hrule hpaired)
        obtain ⟨hscopes, hcaptures⟩ := of_decide_eq_true hclear
        have hid : id ≠ 20 := fun heq => hpaired (by simp [heq])
        refine .loose ((take_rule_adds hsource result).mono fun token htoken => ?_)
          (top_take hid hstack.top.not_text)
        exact loose_of_inFrontOrPart htoken houter (houter.append hscopes) hcaptures

end Bundled

end TokenConcord
