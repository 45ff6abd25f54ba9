import Mathlib.Data.List.Forall2
import TokenConcord.Proofs.Grammar.Candidates
import TokenConcord.Grammar.Tokenize

/-!
# Corresponding grammars

Two grammars correspond when each rule of the one has a partner in the other that does the same,
wherever the two stand. Inside frames of partners both look for the same in the same order, so they
find the same, give the same tokens and open and close partners.
-/

namespace TokenConcord.Grammar

variable {same : RuleId → RuleId → Prop}

/-! ## Rules -/

/-- What two rules do is the same, but for the positions of the rules inside them. -/
inductive SameKind (same : RuleId → RuleId → Prop) : RuleKind → RuleKind → Prop
  | single (pattern : Pattern) (captures : List CaptureRule) :
      SameKind same (.single pattern captures) (.single pattern captures)
  | span (opener closer : Pattern) (openerCaptures closerCaptures : List CaptureRule)
      (contentScopes : List String) (closerLast : Bool) {patterns patterns' : List RuleId} :
      List.Forall₂ same patterns patterns' →
      SameKind same
        (.span opener closer openerCaptures closerCaptures contentScopes closerLast patterns)
        (.span opener closer openerCaptures closerCaptures contentScopes closerLast patterns')
  | container {patterns patterns' : List RuleId} :
      List.Forall₂ same patterns patterns' →
      SameKind same (.container patterns) (.container patterns')

/-- The rules give the same scopes and do the same. -/
structure SameRule (same : RuleId → RuleId → Prop) (rule partner : Rule) : Prop where
  scopes : rule.scopes = partner.scopes
  kind : SameKind same rule.kind partner.kind

/-- The positions that are the same hold rules that are the same, the roots among them. -/
structure Corresponds (same : RuleId → RuleId → Prop) (grammar other : Grammar) : Prop where
  scopeName : grammar.scopeName = other.scopeName
  root : same root root
  unique : Relator.BiUnique same
  rules {id id' : RuleId} : same id id' → ∃ rule partner,
    grammar.rules[id]? = some rule ∧ other.rules[id']? = some partner ∧ SameRule same rule partner

variable {grammar other : Grammar} {id id' : RuleId}

theorem SameKind.patterns {location location' : String} {scopes scopes' : List String}
    {kind kind' : RuleKind} (h : SameKind same kind kind') :
    List.Forall₂ same (Rule.patterns ⟨location, scopes, kind⟩)
      (Rule.patterns ⟨location', scopes', kind'⟩) := by
  cases h with
  | single => exact .nil
  | span _ _ _ _ _ _ hpatterns => exact hpatterns
  | container hpatterns => exact hpatterns

/-- Either both positions group rules, and then the same ones, or neither does. -/
theorem Corresponds.grouped? (h : Corresponds same grammar other) (hid : same id id') :
    Option.Rel (List.Forall₂ same) (grammar.grouped? id) (other.grouped? id') := by
  obtain ⟨⟨_, scopes, kind⟩, ⟨_, scopes', kind'⟩, hrule, hpartner, -, hkind⟩ := h.rules hid
  rw [Grammar.grouped?, Grammar.grouped?, hrule, hpartner]
  cases hkind with
  | single | span => exact .none
  | container hpatterns => exact .some hpatterns

/-! ## Candidates -/

/-- Work on the same positions gives the same positions, where the steps suffice on both sides. -/
theorem Corresponds.flatten (h : Corresponds same grammar other)
    {opened opened' found found' work work' : List RuleId} {steps steps' : Nat}
    (hopened : List.Forall₂ same opened opened') (hfound : List.Forall₂ same found found')
    (hwork : List.Forall₂ same work work')
    (hsteps : work.length + grammar.pending opened ≤ steps)
    (hsteps' : work'.length + other.pending opened' ≤ steps') :
    List.Forall₂ same (grammar.flatten opened found steps work)
      (other.flatten opened' found' steps' work') := by
  induction steps generalizing opened opened' found found' work work' steps' with
  | zero =>
      obtain rfl : work = [] := List.length_eq_zero_iff.mp (by omega)
      cases hwork
      rwa [flatten_nil, flatten_nil]
  | succ steps ih =>
      cases hwork with
      | nil => rwa [flatten_nil, flatten_nil]
      | @cons id id' work work' hid hwork =>
          rw [List.length_cons] at hsteps hsteps'
          obtain ⟨steps', rfl⟩ : ∃ more, steps' = more + 1 := ⟨steps' - 1, by omega⟩
          rw [Grammar.flatten, Grammar.flatten]
          have hgrouped := h.grouped? hid
          generalize hleft : grammar.grouped? id = grouped at hgrouped
          generalize hright : other.grouped? id' = grouped' at hgrouped
          cases hgrouped with
          | none =>
              have hmem := List.rel_mem h.unique hid hfound
              dsimp only
              by_cases hknown : id ∈ found
              · rw [if_pos hknown, if_pos (hmem.mp hknown)]
                exact ih hopened hfound hwork (by omega) (by omega)
              · rw [if_neg hknown, if_neg (mt hmem.mpr hknown)]
                have hadded := List.rel_append hfound (.cons hid .nil)
                exact ih hopened hadded hwork (by omega) (by omega)
          | some hpatterns =>
              have hmem := List.rel_mem h.unique hid hopened
              dsimp only
              by_cases hknown : id ∈ opened
              · rw [if_pos hknown, if_pos (hmem.mp hknown)]
                exact ih hopened hfound hwork (by omega) (by omega)
              · have hknown' := mt hmem.mpr hknown
                have hpending := pending_grouped hleft hknown
                have hpending' := pending_grouped hright hknown'
                rw [if_neg hknown, if_neg hknown']
                refine ih (.cons hid hopened) hfound (List.rel_append hpatterns hwork) ?_ ?_
                · rw [List.length_append]
                  omega
                · rw [List.length_append]
                  omega

theorem Corresponds.candidates (h : Corresponds same grammar other) (hid : same id id') :
    List.Forall₂ same (grammar.candidates id) (other.candidates id') := by
  obtain ⟨⟨_, scopes, kind⟩, ⟨_, scopes', kind'⟩, hrule, hpartner, -, hkind⟩ := h.rules hid
  rw [Grammar.candidates, Grammar.candidates, hrule, hpartner]
  exact h.flatten .nil .nil hkind.patterns (by rw [pending_nil]) (by rw [pending_nil])

/-! ## Aims -/

/-- The aims look for the same, be it the end of a rule or the beginning of the same rule. -/
inductive SameAim (same : RuleId → RuleId → Prop) : Aim → Aim → Prop
  | closer (pattern : Pattern) : SameAim same (.closer pattern) (.closer pattern)
  | rule {id id' : RuleId} (pattern : Pattern) :
      same id id' → SameAim same (.rule id pattern) (.rule id' pattern)

/-- What was found is the same match for the same. -/
inductive SameFound (same : RuleId → RuleId → Prop) : Found → Found → Prop
  | closer (found : Match) : SameFound same (.closer found) (.closer found)
  | rule {id id' : RuleId} (found : Match) :
      same id id' → SameFound same (.rule id found) (.rule id' found)

theorem SameFound.result {found found' : Found} (h : SameFound same found found') :
    found.result = found'.result := by
  cases h <;> rfl

/-- Frames of the same rule with the same scopes. -/
structure SameFrame (same : RuleId → RuleId → Prop) (frame frame' : Frame) : Prop where
  rule : same frame.rule frame'.rule
  nameScopes : frame.nameScopes = frame'.nameScopes
  contentScopes : frame.contentScopes = frame'.contentScopes

variable {frame frame' : Frame}

theorem Corresponds.ruleAim? (h : Corresponds same grammar other) (hid : same id id') :
    Option.Rel (SameAim same) (grammar.ruleAim? id) (other.ruleAim? id') := by
  obtain ⟨⟨_, scopes, kind⟩, ⟨_, scopes', kind'⟩, hrule, hpartner, -, hkind⟩ := h.rules hid
  rw [Grammar.ruleAim?, Grammar.ruleAim?, hrule, hpartner]
  cases hkind with
  | single pattern => exact .some (.rule pattern hid)
  | span opener => exact .some (.rule opener hid)
  | container => exact .none

theorem Corresponds.closer? (h : Corresponds same grammar other)
    (hframe : SameFrame same frame frame') : grammar.closer? frame = other.closer? frame' := by
  obtain ⟨⟨_, scopes, kind⟩, ⟨_, scopes', kind'⟩, hrule, hpartner, -, hkind⟩ := h.rules hframe.rule
  rw [Grammar.closer?, Grammar.closer?, hrule, hpartner]
  cases hkind <;> rfl

theorem Corresponds.closerCaptures (h : Corresponds same grammar other)
    (hframe : SameFrame same frame frame') :
    grammar.closerCaptures frame = other.closerCaptures frame' := by
  obtain ⟨⟨_, scopes, kind⟩, ⟨_, scopes', kind'⟩, hrule, hpartner, -, hkind⟩ := h.rules hframe.rule
  rw [Grammar.closerCaptures, Grammar.closerCaptures, hrule, hpartner]
  cases hkind <;> rfl

theorem Corresponds.aims (h : Corresponds same grammar other)
    (hframe : SameFrame same frame frame') :
    List.Forall₂ (SameAim same) (grammar.aims frame) (other.aims frame') := by
  have hrules := List.rel_filterMap (fun _ _ hid => h.ruleAim? hid) (h.candidates hframe.rule)
  unfold Grammar.aims
  rw [h.closer? hframe]
  dsimp only
  split
  · exact hrules
  · exact List.rel_append hrules (.cons (.closer _) .nil)
  · exact .cons (.closer _) hrules

/-! ## What is found -/

theorem SameAim.at? {aim aim' : Aim} (h : SameAim same aim aim') (cursor : Cursor) :
    Option.Rel (SameFound same) (aim.at? cursor) (aim'.at? cursor) := by
  cases h with
  | closer pattern =>
      rw [Aim.at?]
      cases pattern.matchAt cursor with
      | none => exact .none
      | some found => exact .some (.closer found)
  | rule pattern hid =>
      rw [Aim.at?, Aim.at?]
      cases pattern.nonEmptyAt cursor with
      | none => exact .none
      | some found => exact .some (.rule found hid)

theorem findSome?_same {aims aims' : List Aim} (h : List.Forall₂ (SameAim same) aims aims')
    (cursor : Cursor) :
    Option.Rel (SameFound same) (aims.findSome? (·.at? cursor)) (aims'.findSome? (·.at? cursor)) := by
  induction h with
  | nil => exact .none
  | @cons aim aim' aims aims' haim _ ih =>
      have hfirst := haim.at? cursor
      rw [List.findSome?_cons, List.findSome?_cons]
      generalize aim.at? cursor = found at hfirst
      generalize aim'.at? cursor = found' at hfirst
      cases hfirst with
      | none => exact ih
      | some hfound => exact .some hfound

theorem search?_same {β γ : Type} {related : β → γ → Prop} {test : Cursor → Option β}
    {test' : Cursor → Option γ} (h : ∀ cursor, Option.Rel related (test cursor) (test' cursor))
    (cursor : Cursor) : Option.Rel related (cursor.search? test) (cursor.search? test') := by
  obtain ⟨offset, before, rest, remaining⟩ := cursor
  unfold Cursor.search?
  dsimp only
  induction rest generalizing offset before remaining with
  | nil => exact h _
  | cons c rest ih =>
      have hfirst := h ⟨offset, before, c :: rest, remaining⟩
      rw [Cursor.findSome?, Cursor.findSome?]
      generalize test ⟨offset, before, c :: rest, remaining⟩ = found at hfirst
      generalize test' ⟨offset, before, c :: rest, remaining⟩ = found' at hfirst
      cases hfirst with
      | none => exact ih _ _ _
      | some hfound => exact .some hfound

theorem Corresponds.nextMatch (h : Corresponds same grammar other)
    (hframe : SameFrame same frame frame') (cursor : Cursor) :
    Option.Rel (SameFound same) (grammar.nextMatch frame cursor) (other.nextMatch frame' cursor) :=
  search?_same (findSome?_same (h.aims hframe)) cursor

/-! ## Whole lines -/

/-- The same rules are open, with the same scopes. -/
structure SameStack (same : RuleId → RuleId → Prop) (stack stack' : RuleStack) : Prop where
  top : SameFrame same stack.top stack'.top
  below : List.Forall₂ (SameFrame same) stack.below stack'.below

variable {stack stack' : RuleStack}

theorem SameStack.depth (h : SameStack same stack stack') : stack.depth = stack'.depth := by
  rw [RuleStack.depth, RuleStack.depth, h.below.length_eq]

theorem SameStack.push (h : SameStack same stack stack') (hframe : SameFrame same frame frame') :
    SameStack same (stack.push frame) (stack'.push frame') :=
  ⟨hframe, .cons h.top h.below⟩

theorem SameStack.pop (h : SameStack same stack stack') :
    SameStack same stack.pop stack'.pop := by
  obtain ⟨top, below⟩ := stack
  obtain ⟨top', below'⟩ := stack'
  obtain ⟨htop, hbelow⟩ := h
  dsimp only at hbelow
  cases hbelow with
  | nil => exact ⟨htop, .nil⟩
  | cons hframe hbelow => exact ⟨hframe, hbelow⟩

theorem Corresponds.initialStack (h : Corresponds same grammar other) :
    SameStack same grammar.initialStack other.initialStack := by
  have hscopes : [grammar.scopeName] = [other.scopeName] := by rw [h.scopeName]
  exact ⟨⟨h.root, hscopes, hscopes⟩, .nil⟩

/-- What is the same is taken in the same way. -/
theorem Corresponds.take (h : Corresponds same grammar other) (hstack : SameStack same stack stack')
    (run : TokenRun) {found found' : Found} (hfound : SameFound same found found') :
    SameStack same (grammar.take stack run found).1 (other.take stack' run found').1 ∧
      (grammar.take stack run found).2 = (other.take stack' run found').2 := by
  obtain ⟨-, hname, hcontent⟩ := hstack.top
  cases hfound with
  | closer found =>
      refine ⟨hstack.pop, ?_⟩
      simp only [Grammar.take, hname, hcontent, h.closerCaptures hstack.top]
  | @rule id id' found hid =>
      obtain ⟨⟨_, scopes, kind⟩, ⟨_, scopes', kind'⟩, hrule, hpartner, hscopes, hkind⟩ := h.rules hid
      obtain rfl : scopes = scopes' := hscopes
      cases hkind with
      | single =>
          simp only [Grammar.take, hrule, hpartner, hcontent]
          exact ⟨hstack, rfl⟩
      | span =>
          simp only [Grammar.take, hrule, hpartner, hcontent]
          exact ⟨hstack.push ⟨hid, rfl, rfl⟩, rfl⟩
      | container =>
          simp only [Grammar.take, hrule, hpartner, hcontent]
          exact ⟨hstack, rfl⟩

theorem Corresponds.takeMatches (h : Corresponds same grammar other)
    (hstack : SameStack same stack stack') (steps : Nat) (cursor : Cursor) (run : TokenRun) :
    SameStack same (grammar.takeMatches steps cursor stack run).1
        (other.takeMatches steps cursor stack' run).1 ∧
      (grammar.takeMatches steps cursor stack run).2 =
        (other.takeMatches steps cursor stack' run).2 := by
  induction steps generalizing cursor stack stack' run with
  | zero => exact ⟨hstack, rfl⟩
  | succ steps ih =>
      have hnext := h.nextMatch hstack.top cursor
      rw [Grammar.takeMatches, Grammar.takeMatches]
      generalize grammar.nextMatch stack.top cursor = found at hnext
      generalize other.nextMatch stack'.top cursor = found' at hnext
      cases hnext with
      | none => exact ⟨hstack, rfl⟩
      | some hfound =>
          obtain ⟨hafter, hrun⟩ := h.take hstack run hfound
          dsimp only
          rw [hfound.result, hrun]
          exact ih hafter _ _

/-- A line has the same tokens, and leaves the same rules open. -/
theorem Corresponds.tokenizeLine (h : Corresponds same grammar other)
    (hstack : SameStack same stack stack') (line : Text) :
    (grammar.tokenizeLine line (some stack)).tokens =
        (other.tokenizeLine line (some stack')).tokens ∧
      SameStack same (grammar.tokenizeLine line (some stack)).stack
        (other.tokenizeLine line (some stack')).stack := by
  obtain ⟨hafter, hrun⟩ :=
    h.takeMatches hstack (2 * line.length + stack.depth) (.ofLine line) .empty
  refine ⟨?_, ?_⟩
  · simp only [Grammar.tokenizeLine, Option.getD_some, ← hstack.depth, hrun, hafter.top.contentScopes]
  · simpa only [Grammar.tokenizeLine, Option.getD_some, ← hstack.depth] using hafter

/-- Tokens of lines one after another, each with the rules that the line before it left open. -/
def tokenizeAll (grammar : Grammar) (stack : RuleStack) : List Text → List LineTokens
  | [] => []
  | line :: lines =>
      let result := grammar.tokenizeLine line (some stack)
      result :: tokenizeAll grammar result.stack lines

/-- Lines have the same tokens one after another, and leave as many rules open. -/
theorem Corresponds.tokenizeAll (h : Corresponds same grammar other)
    (hstack : SameStack same stack stack') (lines : List Text) :
    (grammar.tokenizeAll stack lines).map (fun result => (result.tokens, result.stack.depth)) =
      (other.tokenizeAll stack' lines).map fun result => (result.tokens, result.stack.depth) := by
  induction lines generalizing stack stack' with
  | nil => rfl
  | cons line lines ih =>
      obtain ⟨htokens, hafter⟩ := h.tokenizeLine hstack line
      rw [Grammar.tokenizeAll, Grammar.tokenizeAll, List.map_cons, List.map_cons, htokens,
        hafter.depth, ih hafter]

end TokenConcord.Grammar
