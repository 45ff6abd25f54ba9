import TokenConcord.Proofs.Reconcile.Faults

/-!
# The first unit of a line

Where the root alone is open, text in front of the first match is dropped, and the first unit of
a line begins where its first match does. The unit is labelled by the rule of that match, or as
something that is merged. Inside a record or a block comment nothing is dropped, and the first
unit begins where the line does.
-/

namespace TokenConcord

open TokenRun

variable {tokens blanks more later : List ScopedToken} {token first merged : ScopedToken}
  {index count : Nat} {line : Text} {stack : RuleStack}

/-! ## Units by their first token -/

namespace Normalize

/-- The innermost scopes of merged units. -/
def mergedLabels : List String := [Label.identifier, Label.string, Label.blockComment]

theorem getLast?_commentScopes {scopes : List String} (h : Label.blockComment ∈ scopes) :
    (commentScopes scopes).getLast? = some Label.blockComment := by
  induction scopes with
  | nil => cases h
  | cons scope scopes ih =>
      rw [commentScopes]
      split
      next heq => rw [heq, List.getLast?_singleton]
      next hne =>
        have hmem := (List.mem_cons.mp h).resolve_left (Ne.symm hne)
        rw [List.getLast?_cons, ih hmem]
        rfl

/-- A unit has the innermost scope of its first token, or that of something merged. -/
theorem unit_innermost (h : unit index token tokens = .ok (merged, count)) :
    merged.innermost? = token.innermost? ∨
      ∃ label ∈ mergedLabels, merged.innermost? = some label := by
  cases begins token with
  | single _ unit_eq =>
      cases (unit_eq _ _).symm.trans h
      exact Or.inl rfl
  | quotedIdentifier _ _ unit_eq =>
      obtain ⟨content, closer, rest, -, hcontent, -, hunit⟩ :=
        quotedIdentifier_ok ((unit_eq _ _).symm.trans h)
      cases hunit
      exact Or.inr ⟨Label.identifier, by simp [mergedLabels], hcontent⟩
  | string _ _ unit_eq =>
      obtain ⟨stop, -, rfl⟩ := string_ok ((unit_eq _ _).symm.trans h)
      exact Or.inr ⟨Label.string, by simp [mergedLabels], rfl⟩
  | comment _ opens unit_eq =>
      cases (unit_eq _ _).symm.trans h
      have hmem : Label.blockComment ∈ token.scopes := List.contains_iff_mem.mp opens
      exact Or.inr ⟨Label.blockComment, by simp [mergedLabels], getLast?_commentScopes hmem⟩

/-- Behind tokens that are dropped the next one begins the first unit. -/
theorem units_first (hblanks : ∀ token ∈ blanks, token.scopes.length ≤ 1)
    (htoken : 2 ≤ token.scopes.length)
    (h : units index 0 (blanks ++ token :: more) = .ok (first :: later)) :
    first.start = token.start ∧ (first.innermost? = token.innermost? ∨
      ∃ label ∈ mergedLabels, first.innermost? = some label) := by
  induction blanks generalizing index with
  | nil =>
      obtain ⟨merged, count, rest, hunit, -, hresult⟩ := units_cons_ok htoken h
      cases hresult
      exact ⟨(unit_ok hunit).2.1, unit_innermost hunit⟩
  | cons blank blanks ih =>
      obtain ⟨hblank, hblanks⟩ := List.forall_mem_cons.mp hblanks
      rw [List.cons_append, units_blank hblank] at h
      exact ih hblanks h

end Normalize

/-! ## Tokens up to the first match -/

namespace Grammar

variable {grammar : Grammar} {found : Found} {base : List String} {rules : List CaptureRule}

/-- Taking the match covers it under some scopes and with some captures, whatever was covered
before. -/
def TakesUnder (grammar : Grammar) (stack : RuleStack) (found : Found) (base : List String)
    (rules : List CaptureRule) : Prop :=
  ∀ run, (grammar.take stack run found).2 =
    coverMatch found.result base rules (run.coverTo found.result.start stack.top.contentScopes)

/-- The tokens of a line begin with what lies in front of its first match and with the tokens of
that match. -/
theorem tokens_of_nextMatch {scope : String} (hground : grammar.Grounded stack)
    (hstack : stack.Rooted scope) (hbase : Rooted scope base)
    (hnext : grammar.nextMatch stack.top (.ofLine line) = some found)
    (hunder : grammar.TakesUnder stack found base rules)
    (hpos : found.result.start < found.result.stop.offset) :
    let front := gap 0 found.result.start stack.top.contentScopes
    ∃ matched stop more, matched ≠ [] ∧ Tiles found.result.start matched stop ∧
      (∀ token ∈ matched, PartOf base rules token) ∧
      (coverMatch found.result base rules ⟨front, found.result.start⟩).tokens = front ++ matched ∧
      (grammar.tokenizeLine line (some stack)).tokens = front ++ (matched ++ more) := by
  intro front
  have hin := nextMatch_in grammar (Cursor.in_ofLine line) hnext
  have hfront : TokenRun.empty.coverTo found.result.start stack.top.contentScopes =
      ⟨front, found.result.start⟩ := Bundled.coverTo_gap (Nat.zero_le _) _
  have hsound := (sound_empty line scope).coverTo hin.start (hstack stack.top List.mem_cons_self).2
  rw [hfront] at hsound
  obtain ⟨matched, htokens, hparts⟩ :=
    coverMatch_adds found.result base rules ⟨front, found.result.start⟩
  have hreach : found.result.stop.offset ≤
      (coverMatch found.result base rules ⟨front, found.result.start⟩).stop :=
    le_stop_coverTo _ _ _
  have htiles := (coverMatch_sound hin hbase rules hsound).tiles
  rw [htokens, Tiles.append_iff] at htiles
  obtain ⟨middle, hbefore, hmatched⟩ := htiles
  obtain rfl := hbefore.stop_eq hsound.tiles
  obtain ⟨later, hlater, -⟩ := @takeMatches_adds grammar
    (grammar.take stack .empty found).1 (grammar.take stack .empty found).2
    (2 * found.result.stop.remaining + (grammar.take stack .empty found).1.depth) found.result.stop
  obtain ⟨last, hlast, -⟩ := finish_coverTo (grammar.takeAll (.ofLine line) stack .empty).2
    line.width (grammar.takeAll (.ofLine line) stack .empty).1.top.contentScopes
  refine ⟨matched, _, later ++ last, ?_, hmatched, hparts, htokens, ?_⟩
  · rintro rfl
    have hnone := Nat.le_trans hreach (Nat.le_of_eq (Eq.symm hmatched))
    exact absurd hpos (Nat.not_lt.mpr hnone)
  · rw [tokenizeLine_eq]
    dsimp only
    rw [hlast]
    rw [Cursor.ofLine_eq] at hnext ⊢
    rw [takeAll_of_nextMatch hground hnext, takeAll, hlater, hunder, hfront, htokens,
      List.append_assoc, List.append_assoc]

theorem takesUnder_closer (result : Match) :
    grammar.TakesUnder stack (.closer result) stack.top.nameScopes
      (grammar.closerCaptures stack.top) := fun _ => by rw [take_closer]; rfl

/-- What is found next by a rule is covered under its scopes behind those around it. -/
theorem takesUnder_rule {front text : Text} {id : RuleId} {result : Match}
    (hnext : grammar.nextMatch stack.top (.between front text) = some (.rule id result)) :
    ∃ rule, grammar.rules[id]? = some rule ∧
      grammar.TakesUnder stack (.rule id result) (stack.top.contentScopes ++ rule.scopes)
        rule.captures := by
  obtain ⟨-, aim, haim⟩ := exists_ruleAim?_of_nextMatch hnext
  cases hrule : grammar.rules[id]? with
  | none =>
      rw [ruleAim?, hrule] at haim
      cases haim
  | some rule =>
      refine ⟨rule, rfl, ?_⟩
      obtain ⟨location, scopes, kind⟩ := rule
      intro run
      cases kind with
      | single => rw [take_single hrule]; rfl
      | span => rw [take_span hrule]; rfl
      | container =>
          rw [ruleAim?, hrule] at haim
          cases haim

/-- What is found next is covered under the scopes of the innermost rule, and maybe more. -/
theorem exists_takesUnder {front text : Text}
    (hnext : grammar.nextMatch stack.top (.between front text) = some found) :
    ∃ base rules, grammar.TakesUnder stack found base rules ∧
      (stack.top.nameScopes <+: base ∨ stack.top.contentScopes <+: base) := by
  cases found with
  | closer result => exact ⟨_, _, takesUnder_closer result, Or.inl (List.prefix_refl _)⟩
  | rule id result =>
      obtain ⟨rule, -, hunder⟩ := takesUnder_rule hnext
      exact ⟨_, _, hunder, Or.inr (List.prefix_append _ _)⟩

end Grammar

namespace Bundled

open Pattern Grammar ScopedToken

variable {front text : Text}

/-! ## Matches of the rule for identifiers -/

/-- The name is a group of its own, which records where it begins and ends. -/
theorem finds_name {shared : Bool} {turns : List Turn} {cursor : Cursor} {captures : Captures}
    {start : Nat} {found : Match}
    (h : ((Pattern.group 2 (.seq (.set identifierStart)
      (.seq (.star (.set identifierPart) true) segments))).run shared turns cursor captures
        fun stop captures visited => (some (Match.mk start stop captures), visited)).Finds found) :
    ∃ stop, found = ⟨start, stop, ⟨2, cursor.offset, stop.offset⟩ :: captures⟩ ∧
      cursor.offset < stop.offset := by
  rw [Pattern.run, Pattern.run, Pattern.run] at h
  cases hrest : cursor.rest with
  | nil =>
      simp only [hrest] at h
      exact absurd h (Attempt.not_finds_failure _)
  | cons c rest =>
      simp only [hrest] at h
      split at h
      · obtain ⟨stop, _, ⟨hreaches, added, rfl, hadded⟩, h⟩ :=
          Carries.runOver (stepwiseOver_recordsOnly fun _ => False)
            (.seq (.star (.set identifierPart) true) segments)
            (fun _ hmem => absurd hmem List.not_mem_nil) _ _ h
        obtain rfl : added = [] := List.eq_nil_iff_forall_not_mem.mpr hadded
        obtain ⟨_, heq⟩ := h
        cases heq
        refine ⟨stop, rfl, Nat.lt_of_lt_of_le ?_ hreaches.offset_le⟩
        exact Nat.lt_add_of_pos_right c.utf8Size_pos
      · exact absurd h (Attempt.not_finds_failure _)

/-- A match of the rule for identifiers is an at sign or nothing, and then the name. -/
theorem matchAt_identifier_groups {found : Match}
    (h : identifierPattern.matchAt (.between front text) = some found) :
    ∃ opened, opened < found.stop.offset ∧ (opened = front.width ∧
        found.captures = [⟨2, opened, found.stop.offset⟩] ∨
      front.width < opened ∧
        found.captures = [⟨2, opened, found.stop.offset⟩, ⟨1, front.width, opened⟩]) := by
  have hfinds : (identifierPattern.run false [] (.between front text) [] fun stop captures visited =>
      (some (Match.mk front.width stop captures), visited)).Finds found := ⟨∅, h⟩
  rw [identifierPattern, Pattern.run, Pattern.run, runTimes, runUpTo] at hfinds
  rcases Attempt.finds_prefer (Attempt.finds_onceIf hfinds) with hsign | hname
  · rw [Pattern.run, Pattern.run] at hsign
    cases text with
    | nil => exact absurd hsign (Attempt.not_finds_failure _)
    | cons c text =>
        simp only [Cursor.between_rest, Cursor.advance_between] at hsign
        split at hsign
        · obtain ⟨stop, rfl, hlt⟩ := finds_name hsign
          exact ⟨_, hlt, Or.inr ⟨front.width_lt_append (List.cons_ne_nil _ _), rfl⟩⟩
        · exact absurd hsign (Attempt.not_finds_failure _)
  · obtain ⟨stop, rfl, hlt⟩ := finds_name hname
    exact ⟨_, hlt, Or.inl ⟨rfl, rfl⟩⟩

/-- A capture at the beginning of a match and one of all that is behind it. -/
theorem coverMatch_sign {run : TokenRun} {start opened : Nat} {cursor : Cursor}
    (hstart : run.stop = start) (hlt : start < opened) (hopened : opened < cursor.offset)
    (base : List String) :
    coverMatch ⟨start, cursor, [⟨2, opened, cursor.offset⟩, ⟨1, start, opened⟩]⟩ base
      [⟨1, ["keyword.operator.inclusiveidentifier.powerquery"]⟩, ⟨2, [Label.identifier]⟩] run =
        ⟨run.tokens ++
          [⟨start, opened, base ++ ["keyword.operator.inclusiveidentifier.powerquery"], false⟩,
            ⟨opened, cursor.offset, base ++ [Label.identifier], false⟩], cursor.offset⟩ := by
  subst hstart
  simp [coverMatch, coverCaptures, Match.group?, closeCaptures, Nat.ne_of_lt hlt,
    Nat.ne_of_lt hopened, coverTo_of_le, coverTo_of_lt, hlt, hopened]

/-! ## Inside a record or a comment -/

/-- Inside a rule with two ends all stands under more than the scope of the grammar. -/
theorem two_le_scopes (h : compiled.Reachable stack) (hinside : stack ≠ compiled.initialStack) :
    2 ≤ stack.top.nameScopes.length ∧ 2 ≤ stack.top.contentScopes.length := by
  have hspans : ∀ id < compiled.rules.length, compiled.staysOpen id = true →
      (compiled.rules[id]?).any (·.scopes ≠ []) = true := by decide
  have hrooted := Reachable.rooted compiled h
  have hnested := h.nested
  obtain ⟨top, below⟩ := stack
  cases below with
  | nil => exact absurd (hnested.eq_initialStack rfl) hinside
  | cons outer below =>
      obtain ⟨⟨-, _, scopes, _, _, _, _, _, _, _, hrule, hname, hcontent⟩, -⟩ :=
        List.isChain_cons_cons.mp hnested.chain
      have houter : 0 < outer.contentScopes.length := by
        apply List.length_pos_iff.mpr
        intro hnil
        have hscope := (hrooted outer (by simp)).2
        rw [Rooted, hnil] at hscope
        cases hscope
      have hscopes : 0 < scopes.length := by
        apply List.length_pos_iff.mpr
        have hnamed := hspans _ (List.getElem?_eq_some_iff.mp hrule).1 (by rw [staysOpen, hrule])
        rw [hrule] at hnamed
        simpa using hnamed
      change 2 ≤ top.nameScopes.length ∧ 2 ≤ top.contentScopes.length
      rw [hcontent, hname]
      simp only [List.length_append]
      omega

/-- Whatever is found next consumes something. -/
theorem start_lt_stop_of_nextMatch (h : compiled.Nested stack) {found : Found}
    (hnext : compiled.nextMatch stack.top (.between front text) = some found) :
    found.result.start < found.result.stop.offset := by
  obtain ⟨aim, hmem, gap, after, rfl, haim⟩ := exists_aim_of_nextMatch hnext
  obtain ⟨u, rest, -, hstart, hstop, hread⟩ := Aim.at?_reads haim
  rw [hstart, hstop]
  apply Text.width_lt_append
  rcases hread with ⟨pattern, result, rfl, -, hread⟩ | ⟨_, _, _, -, -, hne, -⟩
  · have hcloser : pattern ∈ [literal [']'], literal ['"'], literal ['*', '/']] := by
      rcases nested_cases h with hcode | ⟨code, _, rfl | rfl⟩
      · rcases aim_of_code hcode.top.code hmem with hcloser | ⟨_, _, hrule⟩
        · cases hcloser
          simp
        · cases hrule
      · rw [aims_text rfl] at hmem
        simpa using Or.inr (Or.inl hmem)
      · rw [aims_comment rfl] at hmem
        simpa using Or.inr (Or.inr hmem)
    simp only [List.mem_cons, List.not_mem_nil, or_false] at hcloser
    rcases hcloser with rfl | rfl | rfl
    all_goals
      rw [reads_literal.mp hread]
      exact List.cons_ne_nil _ _
  · exact hne

/-- Inside a rule with two ends the first token of a line is labelled. -/
theorem exists_first_token (h : compiled.Reachable stack)
    (hinside : stack ≠ compiled.initialStack) (line : Text) :
    ∃ token more, (compiled.tokenizeLine line (some stack)).tokens = token :: more ∧
      token.start = 0 ∧ 2 ≤ token.scopes.length := by
  obtain ⟨hname, hcontent⟩ := two_le_scopes h hinside
  have hground := h.nested.grounded (compile_closed grammar_eq)
  cases hnext : compiled.nextMatch stack.top (.ofLine line) with
  | none =>
      rw [Cursor.ofLine_eq] at hnext
      rw [tokenizeLine_eq, Cursor.ofLine_eq, takeAll_of_none hnext]
      dsimp only
      rw [coverTo_eq, finish]
      split
      · exact ⟨_, _, rfl, rfl, hcontent⟩
      next hne =>
        unfold gap at hne ⊢
        split
        next hle =>
          rw [if_pos hle] at hne
          exact absurd rfl hne
        next => exact ⟨_, _, rfl, rfl, hcontent⟩
  | some found =>
      have hfound := hnext
      rw [Cursor.ofLine_eq] at hfound
      have hpos := start_lt_stop_of_nextMatch h.nested hfound
      have hrooted := Reachable.rooted compiled h
      obtain ⟨hrootName, hrootContent⟩ := hrooted stack.top List.mem_cons_self
      obtain ⟨base, rules, hunder, hprefix⟩ := exists_takesUnder hfound
      obtain ⟨hbase, hlength⟩ : Rooted compiled.scopeName base ∧ 2 ≤ base.length := by
        rcases hprefix with ⟨more, rfl⟩ | ⟨more, rfl⟩
        · exact ⟨hrootName.append more, by rw [List.length_append]; omega⟩
        · exact ⟨hrootContent.append more, by rw [List.length_append]; omega⟩
      obtain ⟨matched, stop, more, hne, htiles, hparts, -, htokens⟩ :=
        tokens_of_nextMatch hground hrooted hbase hnext hunder hpos
      rw [htokens]
      unfold gap
      split
      next hle =>
        obtain ⟨token, others, rfl⟩ := List.exists_cons_of_ne_nil hne
        obtain ⟨-, inner, hscopes, -⟩ := hparts token List.mem_cons_self
        refine ⟨token, others ++ more, rfl, ?_, ?_⟩
        · rw [htiles.1]
          exact Nat.le_zero.mp hle
        · rw [hscopes, List.length_append]
          omega
      next => exact ⟨_, _, rfl, rfl, hcontent⟩

/-- Inside a rule with two ends the first unit of a line begins where the line does. -/
theorem first_start_inside (h : compiled.Reachable stack) (hinside : stack ≠ compiled.initialStack)
    (hnormalize : normalize (compiled.tokenizeLine line (some stack)).tokens =
      .ok (first :: later)) : first.start = 0 := by
  obtain ⟨token, more, htokens, hstart, hscopes⟩ := exists_first_token h hinside line
  rw [htokens] at hnormalize
  have hblanks : ∀ token ∈ ([] : List ScopedToken), token.scopes.length ≤ 1 :=
    fun _ hmem => absurd hmem List.not_mem_nil
  rw [(Normalize.units_first hblanks hscopes hnormalize).1, hstart]

/-! ## Outside of records and comments -/

/-- The scopes that a unit can have innermost if it begins with a match of the rule. -/
def firstLabels (id : RuleId) : List String :=
  rootScopes ++ Normalize.mergedLabels ++
    ((compiled.rules[id]?).map fun rule =>
      rule.scopes ++ rule.captures.flatMap (·.scopes)).getD []

/-- All tokens of a match in code have a scope beside those around it. -/
theorem two_le_matched {id : RuleId} {pattern : Pattern} (hmem : (id, pattern) ∈ codeRules)
    {rule : Rule} (hrule : compiled.rules[id]? = some rule) {result : Match}
    (hmatch : pattern.matchAt (.between front text) = some result) {tokens matched : List ScopedToken}
    (hcover : (coverMatch result (rootScopes ++ rule.scopes) rule.captures
      ⟨tokens, front.width⟩).tokens = tokens ++ matched) :
    ∀ token ∈ matched, 2 ≤ token.scopes.length := by
  have hnamed : ∀ rule ∈ otherRules, (compiled.rules[rule.1]?).any (·.scopes ≠ []) = true := by
    decide
  rcases mem_codeRules hmem with hother | heq
  · have hscopes := hnamed _ hother
    rw [hrule] at hscopes
    have hpos : 0 < rule.scopes.length := List.length_pos_iff.mpr (by simpa using hscopes)
    obtain ⟨added, htokens, hparts⟩ := coverMatch_adds result (rootScopes ++ rule.scopes)
      rule.captures ⟨tokens, front.width⟩
    obtain rfl := List.append_cancel_left (hcover.symm.trans htokens)
    intro token htoken
    obtain ⟨-, inner, heq, -⟩ := hparts token htoken
    rw [heq]
    simp only [List.length_append, rootScopes, List.length_singleton]
    omega
  · cases heq
    cases hrule
    obtain ⟨hstart, -⟩ := matchAt_within hmatch
    obtain ⟨opened, hopened, hcaptures⟩ := matchAt_identifier_groups hmatch
    obtain ⟨start, stop, captures⟩ := result
    obtain rfl : start = front.width := hstart
    dsimp only at hopened hcaptures
    rcases hcaptures with ⟨rfl, rfl⟩ | ⟨hlt, rfl⟩
    · have hname := @coverMatch_identifier ⟨tokens, front.width⟩ _ _ rfl hopened rootScopes
      rw [← List.append_cancel_left ((congrArg TokenRun.tokens hname).symm.trans hcover)]
      simp [rootScopes]
    · have hsign := @coverMatch_sign ⟨tokens, front.width⟩ _ _ _ rfl hlt hopened rootScopes
      rw [← List.append_cancel_left ((congrArg TokenRun.tokens hsign).symm.trans hcover)]
      simp [rootScopes]

/-- All scopes of a token of a match are among those that a unit can have. -/
theorem mem_firstLabels {id : RuleId} {rule : Rule} (hrule : compiled.rules[id]? = some rule)
    (h : PartOf (rootScopes ++ rule.scopes) rule.captures token) :
    ∀ scope ∈ token.scopes, scope ∈ firstLabels id := by
  obtain ⟨-, more, hscopes, hmore⟩ := h
  intro scope hmem
  rw [hscopes, List.mem_append, List.mem_append] at hmem
  rw [firstLabels, hrule, Option.map_some, Option.getD_some]
  simp only [List.mem_append, List.mem_flatMap]
  rcases hmem with (hroot | hown) | hcapture
  · exact Or.inl (Or.inl hroot)
  · exact Or.inr (Or.inl hown)
  · exact Or.inr (Or.inr (hmore scope hcapture))

/-- A line without a match gives no unit where the root alone is open. -/
theorem normalize_of_none
    (hnext : compiled.nextMatch compiled.initialStack.top (.ofLine line) = none) :
    normalize (compiled.tokenizeLine line (some compiled.initialStack)).tokens = .ok [] := by
  rw [Cursor.ofLine_eq] at hnext
  rw [tokenizeLine_eq, Cursor.ofLine_eq, takeAll_of_none hnext]
  obtain ⟨added, htokens, hadded⟩ :=
    finish_coverTo .empty line.width compiled.initialStack.top.contentScopes
  dsimp only
  rw [htokens]
  apply Unites.normalize
  apply unites_blanks
  intro token hmem
  rw [(hadded token hmem).2]
  exact Nat.le_refl 1

/-- Where the root alone is open the first unit of a line begins with the first match, and has a
label that the rule of the match gives. -/
theorem first_of_root
    (hnormalize : normalize (compiled.tokenizeLine line (some compiled.initialStack)).tokens =
      .ok (first :: later)) :
    ∃ rule ∈ codeRules, ∃ result,
      compiled.nextMatch compiled.initialStack.top (.ofLine line) = some (.rule rule.1 result) ∧
        first.start = result.start ∧ first.innermost ∈ firstLabels rule.1 := by
  have hreach : compiled.Reachable compiled.initialStack := .initial
  cases hnext : compiled.nextMatch compiled.initialStack.top (.ofLine line) with
  | none =>
      rw [normalize_of_none hnext] at hnormalize
      cases hnormalize
  | some found =>
      have hfound := hnext
      rw [Cursor.ofLine_eq] at hfound
      have hpos := start_lt_stop_of_nextMatch hreach.nested hfound
      obtain ⟨aim, haims, gap, after, rfl, haim⟩ := exists_aim_of_nextMatch hfound
      rw [aims_root rfl] at haims
      obtain ⟨⟨id, pattern⟩, hmem, rfl⟩ := List.mem_map.mp haims
      obtain ⟨result, hmatch, rfl⟩ := Option.map_eq_some_iff.mp haim
      have hmatch := (Option.filter_eq_some_iff.mp hmatch).1
      obtain ⟨hstart, -⟩ := matchAt_within hmatch
      obtain ⟨rule, hrule, hunder⟩ := takesUnder_rule hfound
      have hrooted := Reachable.rooted compiled hreach
      have hroot : Rooted compiled.scopeName rootScopes := rfl
      have hbase := hroot.append rule.scopes
      obtain ⟨matched, stop, more, hne, htiles, hparts, hcover, htokens⟩ :=
        tokens_of_nextMatch grounded_root hrooted hbase hnext hunder hpos
      obtain ⟨token, others, rfl⟩ := List.exists_cons_of_ne_nil hne
      dsimp only [Found.result] at hcover htokens htiles
      rw [hstart] at hcover
      have hlabelled := two_le_matched hmem hrule hmatch hcover token List.mem_cons_self
      have hblanks : ∀ token ∈ TokenRun.gap 0 result.start rootScopes, token.scopes.length ≤ 1 := by
        intro token hmem
        rw [(mem_gap hmem).2]
        exact Nat.le_refl 1
      rw [htokens] at hnormalize
      obtain ⟨hfirst, hinnermost⟩ := Normalize.units_first hblanks hlabelled hnormalize
      refine ⟨(id, pattern), hmem, result, rfl, hfirst.trans htiles.1, ?_⟩
      rw [ScopedToken.innermost]
      rcases hinnermost with heq | ⟨label, hlabel, heq⟩
      · have hscopes := List.ne_nil_of_length_pos (Nat.lt_of_lt_of_le Nat.zero_lt_two hlabelled)
        rw [heq, innermost?, List.getLast?_eq_some_getLast hscopes]
        exact mem_firstLabels hrule (hparts token List.mem_cons_self) _ (List.getLast_mem hscopes)
      · rw [heq]
        exact List.mem_append_left _ (List.mem_append_right _ hlabel)

end Bundled

end TokenConcord
