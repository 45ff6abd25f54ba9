import TokenConcord.Proofs.Reconcile.Segments

/-!
# Units of known tokens

Which units normalizing makes of tokens whose labels are known, wherever in a line they stand.
Units of adjoining stretches of a line follow one another.
-/

namespace TokenConcord

open Normalize

/-- Wherever the tokens stand, normalizing makes these units of them and goes on behind. -/
def Unites (tokens merged : List ScopedToken) : Prop :=
  ∀ index later more, units (index + tokens.length) 0 later = .ok more →
    units index 0 (tokens ++ later) = .ok (merged ++ more)

variable {tokens merged inner : List ScopedToken} {token opener content closer : ScopedToken}
  {index : Nat}

namespace Unites

theorem nil : Unites [] [] := fun _ _ _ h => h

theorem append {later more : List ScopedToken} (h : Unites tokens merged)
    (hlater : Unites later more) : Unites (tokens ++ later) (merged ++ more) := by
  intro index behind units hbehind
  rw [List.length_append, ← Nat.add_assoc] at hbehind
  rw [List.append_assoc, List.append_assoc]
  exact h _ _ _ (hlater _ _ _ hbehind)

theorem normalize (h : Unites tokens merged) : normalize tokens = .ok merged := by
  have hall := h 0 [] [] rfl
  rwa [List.append_nil, List.append_nil] at hall

end Unites

/-- Tokens with the root scope alone are blanks. -/
theorem unites_blanks (h : ∀ token ∈ tokens, token.scopes.length ≤ 1) : Unites tokens [] := by
  induction tokens with
  | nil => exact .nil
  | cons token tokens ih =>
      obtain ⟨htoken, htokens⟩ := List.forall_mem_cons.mp h
      intro index later more hlater
      rw [List.cons_append, units_blank htoken]
      refine ih htokens (index + 1) later more ?_
      rwa [Nat.add_right_comm, Nat.add_assoc, ← List.length_cons]

/-- A unit of a token and some tokens behind it. -/
theorem unites_unit {unit : ScopedToken} (hscopes : 2 ≤ token.scopes.length)
    (h : ∀ index later, Normalize.unit index token (tokens ++ later) = .ok (unit, tokens.length)) :
    Unites (token :: tokens) [unit] := by
  intro index later more hlater
  have hcount : tokens.length ≤ (tokens ++ later).length := by simp
  rw [List.cons_append, units_unit hscopes (h index later) hcount, List.drop_left]
  rw [List.length_cons, Nat.add_comm tokens.length, ← Nat.add_assoc] at hlater
  rw [hlater]
  rfl

/-- A token that opens nothing is a unit of its own. -/
theorem unites_single (hscopes : 2 ≤ token.scopes.length)
    (h : ∀ label ∈ [Label.quotedIdentifierBegin, Label.stringBegin, Label.blockComment],
      token.hasScope label = false) : Unites [token] [token] := by
  refine unites_unit hscopes fun index later => ?_
  rw [unit, h _ (by simp), h _ (by simp), h _ (by simp)]
  cases token.merged <;> rfl

/-- The tokens of a text literal make up one unit. -/
theorem unites_string (hunmerged : opener.merged = false) (hscopes : 2 ≤ opener.scopes.length)
    (hidentifier : opener.hasScope Label.quotedIdentifierBegin = false)
    (hopener : opener.hasScope Label.stringBegin = true)
    (h : ∀ token ∈ inner, token.ContinuesText)
    (hcloser : closer.hasScope Label.stringEnd = true) :
    Unites (opener :: (inner ++ [closer]))
      [⟨opener.start, closer.stop, [opener.scopes.headD "", Label.string], true⟩] := by
  refine unites_unit hscopes fun index later => ?_
  have hend := stringEnd_inner h hcloser index (index + 1) later
  rw [unit, hunmerged, hidentifier, hopener, List.append_assoc, List.singleton_append]
  simp only [Bool.false_eq_true, if_false, if_true, string, hend, bind, Except.bind]
  simp
  rfl

/-- The tokens of a quoted identifier make up one unit. -/
theorem unites_quotedIdentifier (hunmerged : opener.merged = false)
    (hscopes : 2 ≤ opener.scopes.length)
    (hopener : opener.hasScope Label.quotedIdentifierBegin = true)
    (hcontent : content.innermost? = some Label.identifier)
    (hcloser : closer.hasScope Label.quotedIdentifierEnd = true) :
    Unites [opener, content, closer] [⟨opener.start, closer.stop, content.scopes, true⟩] := by
  refine unites_unit hscopes fun index later => ?_
  rw [unit, hunmerged, hopener]
  simp [quotedIdentifier, hcontent, hcloser]

end TokenConcord
