import TokenConcord.Proofs.Grammar.TakeAll

/-!
# Scopes of what is covered

Taking a match leaves the tokens so far as they are and adds some. Those in front of the match
carry the scopes inside the open rule. Those of the match carry its scopes, and behind them only
scopes of its captures.
-/

namespace TokenConcord

/-! ## Added tokens -/

namespace TokenRun

variable {P Q : ScopedToken → Prop} {run run' run'' : TokenRun}

/-- The other run goes on from the run with some tokens, all of a kind. -/
def Adds (P : ScopedToken → Prop) (run run' : TokenRun) : Prop :=
  ∃ added, run'.tokens = run.tokens ++ added ∧ ∀ token ∈ added, P token

theorem Adds.refl (P : ScopedToken → Prop) (run : TokenRun) : Adds P run run :=
  ⟨[], (List.append_nil _).symm, fun _ hmem => absurd hmem List.not_mem_nil⟩

theorem Adds.trans (h : Adds P run run') (h' : Adds P run' run'') : Adds P run run'' := by
  obtain ⟨added, htokens, hadded⟩ := h
  obtain ⟨more, htokens', hmore⟩ := h'
  refine ⟨added ++ more, by rw [htokens', htokens, List.append_assoc], ?_⟩
  exact List.forall_mem_append.mpr ⟨hadded, hmore⟩

theorem Adds.mono (h : Adds P run run') (himp : ∀ token, P token → Q token) : Adds Q run run' := by
  obtain ⟨added, htokens, hadded⟩ := h
  exact ⟨added, htokens, fun token hmem => himp token (hadded token hmem)⟩

theorem adds_coverTo (run : TokenRun) (stop : Nat) {scopes : List String}
    (h : ∀ start stop, P ⟨start, stop, scopes, false⟩) : Adds P run (run.coverTo stop scopes) := by
  unfold TokenRun.coverTo
  split
  · exact .refl P run
  · exact ⟨_, rfl, List.forall_mem_singleton.mpr (h _ _)⟩

end TokenRun

open TokenRun

/-! ## Matches -/

/-- The scopes are some others with scopes of captures behind them. -/
def Refines (base : List String) (rules : List CaptureRule) (scopes : List String) : Prop :=
  ∃ more, scopes = base ++ more ∧ ∀ scope ∈ more, ∃ rule ∈ rules, scope ∈ rule.scopes

section Refines

variable {base scopes : List String} {rules : List CaptureRule}

theorem Refines.refl (base : List String) (rules : List CaptureRule) : Refines base rules base :=
  ⟨[], (List.append_nil _).symm, fun _ hmem => absurd hmem List.not_mem_nil⟩

theorem Refines.append {more : List String} (h : Refines base rules scopes)
    (hmore : ∀ scope ∈ more, ∃ rule ∈ rules, scope ∈ rule.scopes) :
    Refines base rules (scopes ++ more) := by
  obtain ⟨inner, rfl, hinner⟩ := h
  exact ⟨inner ++ more, List.append_assoc .., List.forall_mem_append.mpr ⟨hinner, hmore⟩⟩

end Refines

section Captures

variable {run : TokenRun} {found : Match} {base : List String} {all : List CaptureRule}

/-- The token is part of a match with these scopes and captures. -/
def PartOf (base : List String) (rules : List CaptureRule) (token : ScopedToken) : Prop :=
  token.merged = false ∧ Refines base rules token.scopes

theorem closeCaptures_adds {captures : List OpenCapture} (start : Nat)
    (h : ∀ capture ∈ captures, Refines base all capture.scopes) :
    (∀ capture ∈ (closeCaptures start captures run).1, Refines base all capture.scopes) ∧
      Adds (PartOf base all) run (closeCaptures start captures run).2 := by
  induction captures generalizing run with
  | nil => exact ⟨h, .refl _ _⟩
  | cons capture outer ih =>
      rw [closeCaptures]
      obtain ⟨hcapture, houter⟩ := List.forall_mem_cons.mp h
      split
      · obtain ⟨hopen, hadds⟩ := @ih (run.coverTo capture.stop capture.scopes) houter
        exact ⟨hopen, (adds_coverTo run _ fun _ _ => ⟨rfl, hcapture⟩).trans hadds⟩
      · exact ⟨h, .refl _ _⟩

theorem coverCaptures_adds {rules : List CaptureRule} (hrules : ∀ rule ∈ rules, rule ∈ all)
    {inner : List String} (hinner : Refines base all inner) {captures : List OpenCapture}
    (h : ∀ capture ∈ captures, Refines base all capture.scopes) :
    Adds (PartOf base all) run (coverCaptures found inner rules captures run) := by
  induction rules generalizing captures run with
  | nil =>
      rw [coverCaptures]
      induction captures generalizing run with
      | nil => exact .refl _ _
      | cons capture captures ih =>
          obtain ⟨hcapture, hothers⟩ := List.forall_mem_cons.mp h
          exact (adds_coverTo run _ fun _ _ => ⟨rfl, hcapture⟩).trans (ih hothers)
  | cons rule rules ih =>
      obtain ⟨hrule, hrules⟩ := List.forall_mem_cons.mp hrules
      rw [coverCaptures]
      split
      · exact ih hrules h
      next start stop hgroup =>
        split
        · exact ih hrules h
        · obtain ⟨hopen, hadds⟩ := @closeCaptures_adds run base all captures start h
          have hscopes : Refines base all
              (((closeCaptures start captures run).1.head?.map (·.scopes)).getD inner) := by
            cases hhead : (closeCaptures start captures run).1.head? with
            | none => exact hinner
            | some capture => exact hopen capture (List.mem_of_head? hhead)
          have hcapture := hscopes.append fun scope hmem => ⟨rule, hrule, hmem⟩
          refine hadds.trans (.trans (adds_coverTo _ start fun _ _ => ⟨rfl, hscopes⟩) ?_)
          exact ih hrules (List.forall_mem_cons.mpr ⟨hcapture, hopen⟩)

/-- All tokens of a match carry its scopes, and behind them scopes of captures. -/
theorem coverMatch_adds (found : Match) (base : List String) (rules : List CaptureRule)
    (run : TokenRun) : Adds (PartOf base rules) run (coverMatch found base rules run) := by
  have hwhole : Refines base rules
      (base ++ (rules.filter (·.index == 0)).flatMap (·.scopes)) := by
    refine (Refines.refl base rules).append fun scope hmem => ?_
    obtain ⟨rule, hrule, hscope⟩ := List.mem_flatMap.mp hmem
    exact ⟨rule, (List.mem_filter.mp hrule).1, hscope⟩
  refine .trans ?_ (adds_coverTo _ _ fun _ _ => ⟨rfl, hwhole⟩)
  exact coverCaptures_adds (fun rule hmem => (List.mem_filter.mp hmem).1) hwhole
    fun _ hmem => absurd hmem List.not_mem_nil

end Captures

/-! ## What is taken -/

/-- The captures of the match that a rule begins with. -/
def Rule.captures (rule : Rule) : List CaptureRule :=
  match rule.kind with
  | .single _ captures => captures
  | .span _ _ captures _ _ _ _ => captures
  | .container _ => []

namespace Grammar

variable {grammar : Grammar} {stack : RuleStack} {run : TokenRun}

/-- The token lies in front of a match, or it is part of it. -/
def InFrontOrPart (outer base : List String) (rules : List CaptureRule) (token : ScopedToken) :
    Prop :=
  PartOf outer [] token ∨ PartOf base rules token

theorem adds_match (found : Match) (start : Nat) (outer base : List String)
    (rules : List CaptureRule) (run : TokenRun) :
    Adds (InFrontOrPart outer base rules) run
      (coverMatch found base rules (run.coverTo start outer)) := by
  refine .trans (adds_coverTo run start fun _ _ => Or.inl ⟨rfl, .refl _ _⟩) ?_
  exact (coverMatch_adds found base rules _).mono fun _ => Or.inr

theorem take_rule_adds {id : RuleId} {rule : Rule} (h : grammar.rules[id]? = some rule)
    (found : Match) :
    Adds (InFrontOrPart stack.top.contentScopes (stack.top.contentScopes ++ rule.scopes)
      rule.captures) run (grammar.take stack run (.rule id found)).2 := by
  obtain ⟨location, scopes, kind⟩ := rule
  cases kind with
  | single pattern captures =>
      rw [take_single h]
      exact adds_match found _ _ _ _ _
  | span opener closer captures closerCaptures contentScopes closerLast patterns =>
      rw [take_span h]
      exact adds_match found _ _ _ _ _
  | container patterns =>
      rw [take, h]
      exact adds_coverTo run _ fun _ _ => Or.inl ⟨rfl, .refl _ _⟩

theorem take_closer_adds (found : Match) :
    Adds (InFrontOrPart stack.top.contentScopes stack.top.nameScopes
      (grammar.closerCaptures stack.top)) run (grammar.take stack run (.closer found)).2 := by
  rw [take_closer]
  exact adds_match found _ _ _ _ _

/-- Taking a match only adds tokens. -/
theorem take_adds (found : Found) :
    Adds (fun token => token.merged = false) run (grammar.take stack run found).2 := by
  have himp {outer base : List String} {rules : List CaptureRule} :
      ∀ token, InFrontOrPart outer base rules token → token.merged = false := by
    rintro token (h | h)
    · exact h.1
    · exact h.1
  cases found with
  | closer result => exact (take_closer_adds result).mono himp
  | rule id result =>
      cases hrule : grammar.rules[id]? with
      | none =>
          rw [take, hrule]
          exact adds_coverTo run _ fun _ _ => rfl
      | some rule => exact (take_rule_adds hrule result).mono himp

theorem takeMatches_adds (steps : Nat) (cursor : Cursor) :
    Adds (fun token => token.merged = false) run
      (grammar.takeMatches steps cursor stack run).2 := by
  induction steps generalizing cursor stack run with
  | zero => exact .refl _ _
  | succ steps ih =>
      rw [takeMatches]
      split
      · exact .refl _ _
      next found _ => exact (take_adds found).trans (ih found.result.stop)

end Grammar

end TokenConcord
