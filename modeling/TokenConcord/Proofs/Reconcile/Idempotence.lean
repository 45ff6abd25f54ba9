import TokenConcord.Proofs.Grammar.Coverage
import TokenConcord.Proofs.Reconcile.Segments

/-!
# Normalizing twice

A run takes a token as it is when it is merged already or opens nothing, and has more scopes than
the root's. Every unit is such a token as long as no root scope is a label that a unit could be
cut down to, so a further run changes nothing.
-/

namespace TokenConcord

open Normalize

variable {token content opener merged : ScopedToken} {tokens out : List ScopedToken}
  {scopes : List String} {index skip count : Nat}

namespace ScopedToken

/-- A run neither drops the token nor merges it. -/
structure Settled (token : ScopedToken) : Prop where
  labelled : 2 ≤ token.scopes.length
  kept : token.merged ∨ ¬ token.Opens

/-- The first scope is none of the labels that a unit can end with. -/
def PlainRoot (token : ScopedToken) : Prop :=
  token.scopes.head? ≠ some Label.identifier ∧ token.scopes.head? ≠ some Label.blockComment

end ScopedToken

namespace Normalize

/-! ## Tokens that stay -/

theorem unit_settled (h : token.Settled) (index : Nat) (tokens : List ScopedToken) :
    unit index token tokens = .ok (token, 0) := by
  unfold unit
  rcases h.kept with hmerged | hopens
  · rw [if_pos hmerged]
  · obtain ⟨hidentifier, hstring, hcomment⟩ : token.hasScope Label.quotedIdentifierBegin ≠ true ∧
        token.hasScope Label.stringBegin ≠ true ∧ token.hasScope Label.blockComment ≠ true := by
      simpa only [ScopedToken.Opens, not_or] using hopens
    rw [if_neg hidentifier, if_neg hstring, if_neg hcomment, ite_self]

theorem units_settled (h : ∀ token ∈ tokens, token.Settled) (index : Nat) :
    units index 0 tokens = .ok tokens := by
  induction tokens generalizing index with
  | nil => rfl
  | cons token tokens ih =>
      obtain ⟨htoken, htokens⟩ := List.forall_mem_cons.mp h
      rw [units_unit htoken.labelled (unit_settled htoken index tokens) (Nat.zero_le _),
        List.drop_zero, ih htokens]
      rfl

/-! ## Units stay -/

/-- A list with a last element that is not its first one has two elements. -/
theorem two_le_length_of_getLast? {label : String} (hlast : scopes.getLast? = some label)
    (hroot : scopes.head? ≠ some label) : 2 ≤ scopes.length := by
  match scopes with
  | [] => cases hlast
  | [scope] => exact absurd hlast hroot
  | _ :: _ :: _ => exact Nat.le_add_left 2 _

/-- Cutting scopes down to the label of a comment leaves the root's in front of it. -/
theorem two_le_length_commentScopes (hmem : Label.blockComment ∈ scopes)
    (hroot : scopes.head? ≠ some Label.blockComment) : 2 ≤ (commentScopes scopes).length := by
  match scopes with
  | [] => cases hmem
  | root :: scopes =>
      -- The label stands behind the root's scope, so one scope is left in front of it.
      have hne : root ≠ Label.blockComment := fun heq => hroot (by rw [heq]; rfl)
      have hlater : Label.blockComment ∈ scopes := (List.mem_cons.mp hmem).resolve_left hne.symm
      obtain ⟨scope, more, rfl⟩ := List.exists_cons_of_ne_nil (List.ne_nil_of_mem hlater)
      rw [commentScopes, if_neg hne, commentScopes]
      split
      · exact Nat.le_refl 2
      · exact Nat.le_add_left 2 _

theorem quotedIdentifier_settled (hroots : ∀ token ∈ tokens, token.PlainRoot)
    (h : quotedIdentifier index opener tokens = .ok (merged, count)) : merged.Settled := by
  obtain ⟨content, closer, rest, rfl, hcontent, -, hunit⟩ := quotedIdentifier_ok h
  cases hunit
  have hroot := (hroots content List.mem_cons_self).1
  exact ⟨two_le_length_of_getLast? hcontent hroot, Or.inl rfl⟩

theorem string_settled (h : string index opener tokens = .ok (merged, count)) :
    merged.Settled := by
  obtain ⟨stop, -, rfl⟩ := string_ok h
  exact ⟨Nat.le_refl 2, Or.inl rfl⟩

/-- What a token starts is a token that a further run leaves as it is. -/
theorem unit_ok_settled (hlabelled : 2 ≤ token.scopes.length)
    (hroots : ∀ other ∈ token :: tokens, other.PlainRoot)
    (h : unit index token tokens = .ok (merged, count)) : merged.Settled := by
  obtain ⟨hroot, hroots⟩ := List.forall_mem_cons.mp hroots
  cases begins token with
  | single kept unit_eq =>
      cases (unit_eq _ _).symm.trans h
      exact ⟨hlabelled, kept⟩
  | quotedIdentifier _ _ unit_eq =>
      exact quotedIdentifier_settled hroots ((unit_eq _ _).symm.trans h)
  | string _ _ unit_eq => exact string_settled ((unit_eq _ _).symm.trans h)
  | comment _ opens unit_eq =>
      cases (unit_eq _ _).symm.trans h
      have hmem : Label.blockComment ∈ token.scopes := List.contains_iff_mem.mp opens
      exact ⟨two_le_length_commentScopes hmem hroot.2, Or.inl rfl⟩

theorem units_ok_settled (hroots : ∀ token ∈ tokens, token.PlainRoot)
    (h : units index skip tokens = .ok out) : ∀ token ∈ out, token.Settled := by
  induction tokens generalizing index skip out with
  | nil =>
      cases h
      intro token hmem
      cases hmem
  | cons token tokens ih =>
      have hlater := (List.forall_mem_cons.mp hroots).2
      -- What is still to be skipped belongs to a unit that is settled already.
      cases skip with
      | succ skip =>
          rw [units] at h
          exact ih hlater h
      | zero =>
          by_cases hblank : token.scopes.length ≤ 1
          · rw [units_blank hblank] at h
            exact ih hlater h
          · have hlabelled := Nat.lt_of_not_le hblank
            obtain ⟨merged, count, later, hunit, hrest, rfl⟩ := units_cons_ok hlabelled h
            refine List.forall_mem_cons.mpr ⟨?_, ih hlater hrest⟩
            exact unit_ok_settled hlabelled hroots hunit

end Normalize

/-! ## Tokens of a grammar -/

namespace Grammar

/-- The tokens of a line begin with the scope of the grammar. -/
theorem tokenizeLine_rooted (grammar : Grammar) (line : Text) {stack : RuleStack}
    (h : grammar.Reachable stack) :
    ∀ token ∈ (grammar.tokenizeLine line (some stack)).tokens,
      Rooted grammar.scopeName token.scopes := by
  rw [tokenizeLine_eq]
  obtain ⟨hstack, hrun⟩ := takeAll_sound grammar h.rooted line
  generalize grammar.takeAll (.ofLine line) stack .empty = last at hstack hrun
  obtain ⟨after, run⟩ := last
  have hcontent := (hstack after.top List.mem_cons_self).2
  have hall := hrun.coverTo (.width line) hcontent
  intro token hmem
  dsimp only [TokenRun.finish] at hmem
  split at hmem
  · rw [List.mem_singleton.mp hmem]
    exact hcontent
  · exact (hall.tokens token hmem).2.rooted

end Grammar

/-- Normalizing the units of a line changes nothing, whatever the tokens they come from, unless
the first scope of one is the label of an identifier or of a block comment. No grammar with
another scope gives such tokens. -/
theorem normalize_idempotent :
    (∀ tokens out : List ScopedToken,
      (∀ token ∈ tokens, token.scopes.head? ≠ some Label.identifier ∧
        token.scopes.head? ≠ some Label.blockComment) →
      normalize tokens = .ok out → normalize out = .ok out) ∧
    ∀ (grammar : Grammar) (stack : Option RuleStack) (line : Text) (out : List ScopedToken),
      grammar.scopeName ≠ Label.identifier → grammar.scopeName ≠ Label.blockComment →
      (∀ reached ∈ stack, grammar.Reachable reached) →
      normalize (grammar.tokenizeLine line stack).tokens = .ok out → normalize out = .ok out := by
  have hall : ∀ tokens out : List ScopedToken, (∀ token ∈ tokens, token.PlainRoot) →
      normalize tokens = .ok out → normalize out = .ok out := by
    intro tokens out hroots hok
    exact units_settled (units_ok_settled hroots hok) 0
  refine ⟨hall, ?_⟩
  intro grammar stack line out hidentifier hcomment hreached hok
  have hreach : grammar.Reachable (stack.getD grammar.initialStack) := by
    cases stack with
    | none => exact .initial
    | some stack => exact hreached stack rfl
  refine hall _ out ?_ hok
  intro token hmem
  have hroot : token.scopes.head? = some grammar.scopeName :=
    grammar.tokenizeLine_rooted line hreach token hmem
  rw [ScopedToken.PlainRoot, hroot]
  exact ⟨fun heq => hidentifier (Option.some.inj heq), fun heq => hcomment (Option.some.inj heq)⟩

/-- A quoted identifier, and a line that starts on the closer of a comment. -/
theorem normalize_idempotent_identifier :
    ∃ tokens out, normalize tokens = .ok out ∧ tokens.length = 4 ∧ out.length = 2 ∧
      normalize out = .ok out := by
  let root := "source.powerquery"
  let tokens : List ScopedToken :=
    [⟨0, 2, [root, Label.blockComment, Label.blockCommentEnd], false⟩,
      ⟨2, 4, [root, Label.identifier, Label.quotedIdentifierBegin], false⟩,
      ⟨4, 5, [root, Label.identifier], false⟩,
      ⟨5, 6, [root, Label.identifier, Label.quotedIdentifierEnd], false⟩]
  let out : List ScopedToken :=
    [⟨0, 2, [root, Label.blockComment], true⟩, ⟨2, 6, [root, Label.identifier], true⟩]
  have hok : normalize tokens = .ok out := by decide
  have hroots : ∀ token ∈ tokens, token.scopes.head? ≠ some Label.identifier ∧
      token.scopes.head? ≠ some Label.blockComment := by decide
  exact ⟨tokens, out, hok, rfl, rfl, normalize_idempotent.1 tokens out hroots hok⟩

end TokenConcord
