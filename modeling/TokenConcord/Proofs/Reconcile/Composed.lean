import TokenConcord.Proofs.Reconcile.Continuation
import TokenConcord.Proofs.Reconcile.Units

/-!
# Lines of complete units

A line normalizes if its tokens are those of complete units, one behind the other: single tokens,
text literals from their opening quote to the closing one, and quoted identifiers with a content
between their two ends. It does not if the end of a quoted identifier stands right behind its
beginning, however the tokens in front are merged.
-/

namespace TokenConcord

/-! ## Tokens by what they open and end -/

namespace ScopedToken

/-- Labels that say whether a line of units is complete. -/
def pairLabels : List String :=
  [Label.quotedIdentifierBegin, Label.quotedIdentifierEnd, Label.stringBegin]

/-- The token begins neither a text literal nor a quoted identifier and does not end the
latter. -/
def Loose (token : ScopedToken) : Prop := ∀ label ∈ pairLabels, token.hasScope label = false

/-- The token lies inside a text literal. -/
structure InsideText (token : ScopedToken) : Prop where
  loose : token.Loose
  inside : token.hasScope Label.string = true
  goesOn : token.hasScope Label.stringEnd = false

theorem InsideText.continuesText {token : ScopedToken} (h : token.InsideText) :
    token.ContinuesText := ⟨h.inside, h.goesOn⟩

/-- The token begins a quoted identifier, and no unit takes it up that begins in front of it. -/
structure OpensIdentifier (token : ScopedToken) : Prop where
  unmerged : token.merged = false
  labelled : 2 ≤ token.scopes.length
  opens : token.hasScope Label.quotedIdentifierBegin = true
  innermost : token.innermost? ≠ some Label.identifier
  other : ∀ label ∈ [Label.quotedIdentifierEnd, Label.string, Label.stringEnd, Label.blockComment],
    token.hasScope label = false

/-- The token ends a quoted identifier. -/
structure ClosesIdentifier (token : ScopedToken) : Prop where
  closes : token.hasScope Label.quotedIdentifierEnd = true
  opensNone : token.hasScope Label.quotedIdentifierBegin = false
  innermost : token.innermost? ≠ some Label.identifier

end ScopedToken

/-- The tokens make up complete units. -/
inductive Composed : List ScopedToken → Prop
  | nil : Composed []
  | loose {token : ScopedToken} {tokens : List ScopedToken} :
      token.Loose → Composed tokens → Composed (token :: tokens)
  | text {opener closer : ScopedToken} {inner tokens : List ScopedToken} :
      opener.OpensText → (∀ token ∈ inner, token.InsideText) → closer.Loose →
      closer.hasScope Label.stringEnd = true → Composed tokens →
      Composed (opener :: (inner ++ closer :: tokens))
  | quotedIdentifier {opener content closer : ScopedToken} {tokens : List ScopedToken} :
      opener.OpensIdentifier → content.Loose → content.innermost? = some Label.identifier →
      closer.ClosesIdentifier → Composed tokens → Composed (opener :: content :: closer :: tokens)

/-- A quoted identifier without content: its end stands right behind its beginning. -/
def EmptyIdentifier (tokens : List ScopedToken) : Prop :=
  ∃ opener closer, [opener, closer] <:+: tokens ∧
    opener.hasScope Label.quotedIdentifierBegin = true ∧
      closer.hasScope Label.quotedIdentifierEnd = true

open ScopedToken

variable {tokens more front inner : List ScopedToken} {token opener closer : ScopedToken}
  {index count : Nat}

theorem composed_of_loose (h : ∀ token ∈ tokens, token.Loose) : Composed tokens := by
  induction tokens with
  | nil => exact .nil
  | cons token tokens ih =>
      obtain ⟨htoken, htokens⟩ := List.forall_mem_cons.mp h
      exact .loose htoken (ih htokens)

namespace Composed

theorem append (h : Composed tokens) (hmore : Composed more) : Composed (tokens ++ more) := by
  induction h with
  | nil => exact hmore
  | loose htoken _ ih => exact .loose htoken ih
  | text hopener hinner hcloser hend _ ih =>
      rw [List.cons_append, List.append_assoc, List.cons_append]
      exact .text hopener hinner hcloser hend ih
  | quotedIdentifier hopener hcontent hidentifier hcloser _ ih =>
      exact .quotedIdentifier hopener hcontent hidentifier hcloser ih

/-- A comment token stands by itself. -/
theorem tail_of_comment (h : Composed (token :: tokens))
    (hcomment : token.hasScope Label.blockComment = true) : Composed tokens := by
  cases h with
  | loose _ htokens => exact htokens
  | text hopener =>
      rw [hopener.other _ (by simp)] at hcomment
      cases hcomment
  | quotedIdentifier hopener =>
      rw [hopener.other _ (by simp)] at hcomment
      cases hcomment

/-- What a comment leaves over are complete units. -/
theorem drop_comment (h : Composed tokens) (stop : Nat) :
    Composed (tokens.drop (Normalize.commentEnd stop tokens).2) := by
  induction tokens generalizing stop with
  | nil => exact h
  | cons token tokens ih =>
      rw [Normalize.commentEnd]
      split
      · exact h
      next hcomment =>
        simp only [Bool.or_eq_true, not_or, Bool.not_eq_true', Bool.not_eq_false] at hcomment
        have htokens := h.tail_of_comment hcomment.2
        split
        · exact htokens
        · exact ih htokens token.stop

end Composed

/-! ## Complete units normalize -/

namespace Normalize

/-- A token that opens no text begins a unit, and what this leaves over are complete units. -/
theorem unit_loose (h : token.Loose) (htokens : Composed tokens) (index : Nat) :
    ∃ merged count, unit index token tokens = .ok (merged, count) ∧
      Composed (tokens.drop count) := by
  cases begins token with
  | single _ unit_eq => exact ⟨token, 0, unit_eq index tokens, htokens⟩
  | quotedIdentifier _ opens _ => cases (h _ (by simp [pairLabels])).symm.trans opens
  | string _ opens _ => cases (h _ (by simp [pairLabels])).symm.trans opens
  | comment _ _ unit_eq =>
      refine ⟨(blockComment token tokens).1, (blockComment token tokens).2, unit_eq index tokens, ?_⟩
      by_cases hend : token.hasScope Label.blockCommentEnd = true
      · rw [blockComment_closed hend]
        exact htokens
      · rw [blockComment_open hend]
        exact htokens.drop_comment token.stop

theorem units_composed (h : Composed tokens) (index : Nat) :
    ∃ out, units index 0 tokens = .ok out := by
  induction hlength : tokens.length using Nat.strongRecOn generalizing tokens index with
  | ind length ih =>
      subst hlength
      cases h with
      | nil => exact ⟨[], rfl⟩
      | @loose token tokens htoken htokens =>
          by_cases hblank : token.scopes.length ≤ 1
          · rw [units_blank hblank]
            exact ih tokens.length (Nat.lt_succ_self _) htokens _ rfl
          · obtain ⟨merged, count, hunit, hrest⟩ := unit_loose htoken htokens index
            rw [units_unit (Nat.lt_of_not_le hblank) hunit (unit_ok hunit).1]
            have hless : (tokens.drop count).length < (token :: tokens).length := by
              rw [List.length_drop, List.length_cons]
              omega
            obtain ⟨out, hout⟩ := ih _ hless hrest (index + 1 + count) rfl
            exact ⟨merged :: out, by rw [hout]; rfl⟩
      | @text opener closer inner tokens hopener hinner _ hend htokens =>
          have hunites := unites_string hopener.unmerged hopener.labelled
            (hopener.other _ (by simp)) hopener.opens
            (fun token hmem => (hinner token hmem).continuesText) hend
          have hsplit : opener :: (inner ++ closer :: tokens) =
              opener :: (inner ++ [closer]) ++ tokens := by simp
          have hless : tokens.length < (opener :: (inner ++ closer :: tokens)).length := by
            simp only [List.length_cons, List.length_append]
            omega
          obtain ⟨out, hout⟩ := ih _ hless htokens (index + (inner.length + 1 + 1)) rfl
          rw [hsplit]
          exact ⟨_, hunites index tokens out (by simpa using hout)⟩
      | @quotedIdentifier opener content closer tokens hopener _ hidentifier hcloser htokens =>
          have hunites := unites_quotedIdentifier hopener.unmerged hopener.labelled hopener.opens
            hidentifier hcloser.closes
          have hless : tokens.length < (opener :: content :: closer :: tokens).length := by
            simp only [List.length_cons]
            omega
          obtain ⟨out, hout⟩ := ih _ hless htokens (index + 3) rfl
          exact ⟨_, hunites index tokens out hout⟩

end Normalize

/-- Complete units normalize. -/
theorem Composed.normalize (h : Composed tokens) : ∃ out, normalize tokens = .ok out :=
  Normalize.units_composed h 0

/-! ## Empty quoted identifiers -/

/-- A token that begins a quoted identifier is not followed by one that ends it. -/
def Apart (token next : ScopedToken) : Prop :=
  token.hasScope Label.quotedIdentifierBegin = true →
    next.hasScope Label.quotedIdentifierEnd = false

theorem isChain_apart (h : ∀ token ∈ front, token.hasScope Label.quotedIdentifierBegin = false)
    (htokens : tokens.IsChain Apart) : (front ++ tokens).IsChain Apart := by
  induction front with
  | nil => exact htokens
  | cons token front ih =>
      obtain ⟨htoken, hfront⟩ := List.forall_mem_cons.mp h
      refine List.isChain_cons.mpr ⟨fun next _ hopens => ?_, ih hfront⟩
      rw [htoken] at hopens
      cases hopens

theorem Composed.isChain_apart (h : Composed tokens) : tokens.IsChain Apart := by
  induction h with
  | nil => exact .nil
  | @loose token tokens htoken _ ih =>
      refine @TokenConcord.isChain_apart tokens [token] ?_ ih
      exact List.forall_mem_singleton.mpr (htoken _ (by simp [pairLabels]))
  | @text opener closer inner tokens hopener hinner hcloser _ _ ih =>
      have hsplit : opener :: (inner ++ closer :: tokens) =
          opener :: (inner ++ [closer]) ++ tokens := by simp
      rw [hsplit]
      refine TokenConcord.isChain_apart (List.forall_mem_cons.mpr ⟨hopener.other _ (by simp), ?_⟩) ih
      refine List.forall_mem_append.mpr ⟨fun token hmem => (hinner token hmem).loose _ (by simp [pairLabels]), ?_⟩
      exact List.forall_mem_singleton.mpr (hcloser _ (by simp [pairLabels]))
  | @quotedIdentifier opener content closer tokens _ hcontent _ hcloser _ ih =>
      have hbehind : ([content, closer] ++ tokens).IsChain Apart := by
        refine TokenConcord.isChain_apart
          (List.forall_mem_cons.mpr ⟨hcontent _ (by simp [pairLabels]), ?_⟩) ih
        exact List.forall_mem_singleton.mpr hcloser.opensNone
      refine List.isChain_cons.mpr ⟨fun next hnext _ => ?_, hbehind⟩
      obtain rfl : content = next := Option.some.inj hnext
      exact hcontent _ (by simp [pairLabels])

/-- None of the quoted identifiers among complete units is empty. -/
theorem Composed.not_emptyIdentifier (h : Composed tokens) : ¬ EmptyIdentifier tokens := by
  rintro ⟨opener, closer, hinfix, hopens, hcloses⟩
  have happart : Apart opener closer :=
    List.isChain_pair.mp <| List.IsChain.infix h.isChain_apart hinfix
  rw [happart hopens] at hcloses
  cases hcloses

namespace Normalize

/-- No unit that begins in front of a quoted identifier takes up its beginning. -/
theorem unit_length {merged : ScopedToken} (hopener : opener.OpensIdentifier)
    (h : unit index token (front ++ opener :: tokens) = .ok (merged, count)) :
    count ≤ front.length := by
  cases begins token with
  | single _ unit_eq =>
      cases (unit_eq _ _).symm.trans h
      exact Nat.zero_le _
  | quotedIdentifier _ _ unit_eq =>
      exact quotedIdentifier_length hopener.innermost (hopener.other _ (by simp))
        ((unit_eq _ _).symm.trans h)
  | string _ _ unit_eq =>
      obtain ⟨stop, hend, -⟩ := string_ok ((unit_eq _ _).symm.trans h)
      rcases stringEnd_stands (hopener.other _ (by simp)) hend with hle | ⟨⟨hinside, -⟩, -⟩
      · exact hle
      · rw [hopener.other _ (by simp)] at hinside
        cases hinside
  | comment _ _ unit_eq =>
      cases (unit_eq _ _).symm.trans h
      refine Nat.not_lt.mp fun hless => ?_
      have hcomment := (blockComment_takes hless).2
      rw [hopener.other _ (by simp)] at hcomment
      cases hcomment

end Normalize

/-- Somewhere among the tokens the end of a quoted identifier stands right behind its beginning,
and both are told apart from all other tokens. -/
def Hollow (tokens : List ScopedToken) : Prop :=
  ∃ front opener closer behind, tokens = front ++ opener :: closer :: behind ∧
    opener.OpensIdentifier ∧ closer.ClosesIdentifier

namespace Hollow

theorem append (h : Hollow tokens) (more : List ScopedToken) : Hollow (tokens ++ more) := by
  obtain ⟨front, opener, closer, behind, rfl, hopener, hcloser⟩ := h
  exact ⟨front, opener, closer, behind ++ more, by simp, hopener, hcloser⟩

theorem emptyIdentifier (h : Hollow tokens) : EmptyIdentifier tokens := by
  obtain ⟨front, opener, closer, behind, rfl, hopener, hcloser⟩ := h
  exact ⟨opener, closer, ⟨front, behind, by simp⟩, hopener.opens, hcloser.closes⟩

/-- Tokens with an empty quoted identifier do not normalize. -/
theorem not_normalize (h : Hollow tokens) (out : List ScopedToken) : normalize tokens ≠ .ok out := by
  obtain ⟨front, opener, closer, behind, rfl, hopener, hcloser⟩ := h
  intro h
  rcases Normalize.units_begin_or_inside h with
    ⟨index, out, h⟩ | ⟨_, _, _, _, _, hunit, hcount⟩
  · have hunit : Normalize.unit index opener (closer :: behind) =
        Normalize.quotedIdentifier index opener (closer :: behind) := by
      simp [Normalize.unit, hopener.unmerged, hopener.opens]
    rw [Normalize.units, if_neg (Nat.not_le.mpr hopener.labelled), hunit,
      Normalize.quotedIdentifier.eq_def] at h
    dsimp only at h
    rw [if_neg hcloser.innermost] at h
    cases h
  · exact absurd (Normalize.unit_length hopener hunit) (Nat.not_le.mpr hcount)

end Hollow

end TokenConcord
