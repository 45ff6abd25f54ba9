import TokenConcord.Proofs.Outcome
import TokenConcord.Proofs.Reconcile.Idempotence

/-!
# Flagged tokens

A token that is flagged as merged is a unit of its own where a unit begins on it, and a comment
stops in front of it. A text literal and a quoted identifier do not look at the flags of the tokens
behind their opener. A flagged token therefore stays as it is if the tokens in front of it normalize
by themselves. Otherwise they break off inside a text literal or a quoted identifier, and that takes
the flagged token up.
-/

namespace TokenConcord

/-- The label of the token that begins the unit. -/
def Compound.opening : Compound → String
  | quotedIdentifier => Label.quotedIdentifierBegin
  | string => Label.stringBegin

namespace Normalize

open Outcome

variable {index index' openedAt openedAt' skip stop count : Nat}
  {opener token merged : ScopedToken}
  {before after inner front head made tokens more out : List ScopedToken}

/-! ## Units of tokens that are cut off

A unit depends on no token behind its last one. Where the tokens are cut off inside it they are
exhausted. -/

theorem quotedIdentifier_cut
    (h : quotedIdentifier index opener (tokens ++ more) = .ok (merged, count)) (index' : Nat) :
    if count ≤ tokens.length then quotedIdentifier index' opener tokens = .ok (merged, count)
    else ∃ expected, quotedIdentifier index' opener tokens =
      .error (.exhausted .quotedIdentifier index' expected) := by
  obtain ⟨content, closer, rest, htokens, hcontent, hcloser, hunit⟩ := quotedIdentifier_ok h
  cases hunit
  match tokens with
  | [] => exact ⟨_, rfl⟩
  | [first] =>
      cases htokens
      exact ⟨_, by rw [quotedIdentifier, if_pos hcontent]⟩
  | first :: second :: tokens =>
      cases htokens
      rw [if_pos (by simp), quotedIdentifier, if_pos hcontent]
      exact if_pos hcloser

theorem stringEnd_cut (h : stringEnd openedAt index (tokens ++ more) = .ok (stop, count))
    (openedAt' index' : Nat) :
    stringEnd openedAt' index' tokens =
      if count ≤ tokens.length then .ok (stop, count)
      else .error (.exhausted .string openedAt' Label.stringEnd) := by
  obtain ⟨inner, closer, later, hsplit, hinner, hcloser, hfound⟩ := stringEnd_ok h
  cases hfound
  rcases List.append_eq_append_iff.mp hsplit with ⟨between, rfl, -⟩ | ⟨between, rfl, hbehind⟩
  · have hinside := fun token hmem => hinner token (List.mem_append_left between hmem)
    rw [stringEnd_exhausted hinside, if_neg]
    rw [List.length_append]
    omega
  · cases between with
    | nil =>
        rw [List.append_nil, stringEnd_exhausted hinner, if_neg (Nat.not_succ_le_self _)]
    | cons _ between =>
        cases hbehind
        rw [stringEnd_inner hinner hcloser, if_pos (by simp)]

theorem commentEnd_cut (h : (commentEnd stop (tokens ++ more)).2 ≤ tokens.length) :
    commentEnd stop tokens = commentEnd stop (tokens ++ more) := by
  induction tokens generalizing stop with
  | nil =>
      have hnone : (commentEnd stop more).2 = 0 := Nat.le_zero.mp h
      have hstop := (@commentEnd_bounds _ _ ⟨0, stop, [], false⟩ more rfl).2
      rw [hnone] at hstop
      exact Prod.ext hstop.symm hnone.symm
  | cons token tokens ih =>
      rw [List.cons_append, commentEnd] at h ⊢
      rw [commentEnd]
      split
      · rfl
      · split
        · rfl
        next hstop hend =>
          rw [if_neg hstop, if_neg hend] at h
          rw [ih (Nat.le_of_succ_le_succ h)]

theorem blockComment_cut (h : (blockComment opener (tokens ++ more)).2 ≤ tokens.length) :
    blockComment opener tokens = blockComment opener (tokens ++ more) := by
  by_cases hend : opener.hasScope Label.blockCommentEnd = true
  · rw [blockComment_closed hend, blockComment_closed hend]
  · rw [blockComment_open hend] at h
    rw [blockComment_open hend, blockComment_open hend, commentEnd_cut h]

/-- A unit that ends in front of the place where the tokens are cut off stays, and depends on no
number of a token. -/
theorem unit_cut (h : unit index opener (tokens ++ more) = .ok (merged, count))
    (hcount : count ≤ tokens.length) (index' : Nat) :
    unit index' opener tokens = .ok (merged, count) := by
  cases begins opener with
  | single _ unit_eq =>
      rw [unit_eq] at h ⊢
      exact h
  | quotedIdentifier _ _ unit_eq =>
      rw [unit_eq] at h ⊢
      have hcut := quotedIdentifier_cut h index'
      rwa [if_pos hcount] at hcut
  | string _ _ unit_eq =>
      rw [unit_eq] at h ⊢
      obtain ⟨stop, hend, rfl⟩ := string_ok h
      rw [string, stringEnd_cut hend, if_pos hcount]
      rfl
  | comment _ _ unit_eq =>
      rw [unit_eq] at h ⊢
      have hunit : blockComment opener (tokens ++ more) = (merged, count) := Except.ok.inj h
      rw [blockComment_cut (by rw [hunit]; exact hcount), hunit]

/-- A unit that takes up a flagged token is a text literal or a quoted identifier. In front of that
token it is exhausted. -/
theorem unit_flagged (hmerged : token.merged = true)
    (h : unit index opener (tokens ++ token :: more) = .ok (merged, count))
    (hcount : tokens.length < count) :
    opener.merged = false ∧ merged.merged = true ∧ ∃ compound expected,
      opener.hasScope compound.opening = true ∧
        unit index opener tokens = .error (.exhausted compound index expected) := by
  cases begins opener with
  | single _ unit_eq =>
      cases (unit_eq _ _).symm.trans h
      cases hcount
  | quotedIdentifier unmerged opens unit_eq =>
      rw [unit_eq] at h
      obtain ⟨_, _, _, _, _, _, hunit⟩ := quotedIdentifier_ok h
      have hcut := quotedIdentifier_cut h index
      rw [if_neg (Nat.not_le.mpr hcount)] at hcut
      obtain ⟨expected, hfault⟩ := hcut
      cases hunit
      exact ⟨unmerged, rfl, .quotedIdentifier, expected, opens, (unit_eq _ _).trans hfault⟩
  | string unmerged opens unit_eq =>
      rw [unit_eq] at h
      obtain ⟨stop, hend, rfl⟩ := string_ok h
      refine ⟨unmerged, rfl, .string, Label.stringEnd, opens, ?_⟩
      rw [unit_eq, string, stringEnd_cut hend, if_neg (Nat.not_le.mpr hcount)]
      rfl
  | comment _ _ unit_eq =>
      cases (unit_eq _ _).symm.trans h
      cases hmerged.symm.trans (blockComment_takes hcount).1

/-- Which units tokens give does not depend on their numbers. -/
theorem units_renumber (h : units index skip tokens = .ok out) (index' : Nat) :
    units index' skip tokens = .ok out := by
  induction tokens generalizing index index' skip out with
  | nil => exact h
  | cons token tokens ih =>
      cases skip with
      | succ skip =>
          rw [units] at h ⊢
          exact ih h _
      | zero =>
          by_cases hblank : token.scopes.length ≤ 1
          · rw [units_blank hblank] at h ⊢
            exact ih h _
          · obtain ⟨merged, count, later, hunit, hrest, rfl⟩ :=
              units_cons_ok (Nat.lt_of_not_le hblank) h
            have hcount := (unit_ok hunit).1
            rw [← List.append_nil tokens] at hunit
            rw [units, if_neg hblank, unit_cut hunit hcount index']
            exact bind_ok_iff.mpr ⟨_, rfl, bind_ok_iff.mpr ⟨later, ih hrest _, rfl⟩⟩

/-! ## Segments at the front -/

/-- Tokens at the front give these units, also if the tokens behind them are cut off somewhere. -/
def Leads (head made rest : List ScopedToken) : Prop :=
  ∀ index tokens, tokens <+: rest →
    units index 0 (head ++ tokens) = (units (index + head.length) 0 tokens).map (made ++ ·)

theorem leads_blank (h : token.scopes.length ≤ 1) (rest : List ScopedToken) :
    Leads [token] [] rest := by
  intro index tokens _
  rw [List.singleton_append, units_blank h, List.length_singleton]
  cases units (index + 1) 0 tokens <;> rfl

theorem leads_unit (hscopes : 2 ≤ opener.scopes.length)
    (h : unit index opener tokens = .ok (merged, count)) :
    Leads (opener :: tokens.take count) [merged] (tokens.drop count) := by
  intro index' cut hcut
  obtain ⟨more, hrest⟩ := hcut
  have hcount : (tokens.take count).length = count := List.length_take_of_le (unit_ok h).1
  rw [← List.take_append_drop count tokens, ← hrest, ← List.append_assoc] at h
  have hunit := unit_cut h (by rw [List.length_append]; omega) index'
  rw [List.cons_append, units_unit hscopes hunit (by rw [List.length_append]; omega),
    List.drop_left' hcount, List.length_cons, hcount, Nat.add_assoc, Nat.add_comm 1]
  rfl

/-! ## Runs over a flagged token -/

/-- The tokens in front of a flagged one break off inside a text literal or a quoted identifier that
one of them begins. The unit takes up the flagged token, and with it the first of the tokens behind
it. The tokens in front are numbered from `index` on. -/
inductive TakenUp (index : Nat) (before : List ScopedToken) (token : ScopedToken)
    (after out : List ScopedToken) : Prop
  | intro (compound : Compound) (expected : String) (opener whole : ScopedToken)
      (earlier inner taken rest first later : List ScopedToken)
      (split : before = earlier ++ opener :: inner) (unmerged : opener.merged = false)
      (opens : opener.hasScope compound.opening = true)
      (exhausted : units index 0 before =
        .error (.exhausted compound (index + earlier.length) expected))
      (in_front : units index 0 earlier = .ok first)
      (behind : after = taken ++ rest) (rest_ok : normalize rest = .ok later)
      (result : out = first ++ whole :: later) (flagged : whole.merged = true)
      (start : whole.start = opener.start)
      (stop : whole.stop = ((token :: taken).getLast (List.cons_ne_nil _ _)).stop) :
      TakenUp index before token after out

/-- Units in front of those that the tokens lead to. -/
theorem TakenUp.lead (h : TakenUp (index + head.length) before token after out)
    (hleads : Leads head made (before ++ token :: after)) :
    TakenUp index (head ++ before) token after (made ++ out) := by
  obtain ⟨compound, expected, opener, whole, earlier, inner, taken, rest, first, later, rfl,
    hunmerged, hopens, hexhausted, hfirst, hbehind, hlater, rfl, hflagged, hstart, hstop⟩ := h
  refine ⟨compound, expected, opener, whole, head ++ earlier, inner, taken, rest, made ++ first,
    later, (List.append_assoc ..).symm, hunmerged, hopens, ?_, ?_, hbehind, hlater,
    (List.append_assoc ..).symm, hflagged, hstart, hstop⟩
  · rw [hleads index _ (List.prefix_append _ _), hexhausted, List.length_append, Nat.add_assoc]
    rfl
  · rw [List.append_assoc] at hleads
    rw [hleads index earlier (List.prefix_append _ _), hfirst]
    rfl

/-- A token in front of a flagged one either gives units with some of the tokens behind it, or takes
the flagged token up. -/
theorem leads_or_takenUp (hmerged : token.merged = true)
    (h : units index 0 (opener :: inner ++ token :: after) = .ok out) :
    (∃ head made before, opener :: inner = head ++ before ∧ head ≠ [] ∧
        Leads head made (before ++ token :: after)) ∨
      TakenUp index (opener :: inner) token after out := by
  by_cases hblank : opener.scopes.length ≤ 1
  · exact Or.inl ⟨[opener], [], inner, rfl, List.cons_ne_nil _ _, leads_blank hblank _⟩
  have hscopes : 2 ≤ opener.scopes.length := Nat.lt_of_not_le hblank
  rw [List.cons_append] at h
  obtain ⟨merged, count, later, hunit, hrest, rfl⟩ := units_cons_ok hscopes h
  rcases Nat.lt_or_ge inner.length count with hlt | hle
  · right
    obtain ⟨hcount, hstart, hstop, -⟩ := unit_ok hunit
    obtain ⟨hunmerged, hflagged, compound, expected, hopens, hfault⟩ := unit_flagged hmerged hunit hlt
    obtain ⟨extra, rfl⟩ := Nat.exists_eq_add_of_lt hlt
    have htake : (inner ++ token :: after).take (inner.length + extra + 1) =
        inner ++ token :: after.take extra := by
      rw [Nat.add_assoc, List.take_length_add_append, List.take_succ_cons]
    have hdrop : (inner ++ token :: after).drop (inner.length + extra + 1) = after.drop extra := by
      rw [Nat.add_assoc, List.drop_length_add_append, List.drop_succ_cons]
    rw [units_skip, hdrop] at hrest
    refine ⟨compound, expected, opener, merged, [], inner, after.take extra, after.drop extra, [],
      later, rfl, hunmerged, hopens, ?_, rfl, (List.take_append_drop extra after).symm,
      units_renumber hrest 0, rfl, hflagged, hstart, ?_⟩
    · rw [units, if_neg hblank, hfault]
      rfl
    · rw [hstop]
      simp only [htake, ← List.cons_append]
      rw [List.getLast_append_of_ne_nil]
  · left
    have hleads := leads_unit hscopes hunit
    rw [List.take_append_of_le_length hle, List.drop_append_of_le_length hle] at hleads
    refine ⟨opener :: inner.take count, [merged], inner.drop count, ?_, List.cons_ne_nil _ _, hleads⟩
    rw [List.cons_append, List.take_append_drop]

/-- A run over a flagged token goes on behind it, unless a unit takes the token up. -/
theorem units_flagged (hmerged : token.merged = true) (hscopes : 2 ≤ token.scopes.length)
    (h : units index 0 (before ++ token :: after) = .ok out) :
    (∃ first later, units index 0 before = .ok first ∧ normalize after = .ok later ∧
        out = first ++ token :: later) ∨
      TakenUp index before token after out := by
  -- The tokens in front lose a segment at a time, until a unit begins on the flagged token or
  -- takes it up.
  induction hlength : before.length using Nat.strongRecOn generalizing before index out with
  | ind length ih =>
      subst hlength
      cases before with
      | nil =>
          obtain ⟨merged, count, later, hunit, hrest, rfl⟩ := units_cons_ok hscopes h
          rw [unit_settled ⟨hscopes, Or.inl hmerged⟩] at hunit
          cases hunit
          exact Or.inl ⟨[], later, rfl, units_renumber hrest 0, rfl⟩
      | cons opener inner =>
          rcases leads_or_takenUp hmerged h with ⟨head, made, front, hsplit, hne, hleads⟩ | htaken
          · rw [hsplit] at h ⊢
            rw [List.append_assoc, hleads index _ (List.prefix_refl _)] at h
            obtain ⟨later, hlater, rfl⟩ := map_ok_iff.mp h
            have hlt : front.length < (opener :: inner).length := by
              rw [hsplit, List.length_append]
              exact Nat.lt_add_of_pos_left (List.length_pos_of_ne_nil hne)
            rcases ih front.length hlt hlater rfl with ⟨first, last, hfirst, hlast, rfl⟩ | htaken
            · refine Or.inl ⟨made ++ first, last, ?_, hlast, (List.append_assoc ..).symm⟩
              rw [hleads index _ (List.prefix_append _ _), hfirst]
              rfl
            · exact Or.inr (htaken.lead hleads)
          · exact Or.inr htaken

end Normalize

/-- A flagged token stays as it is if the tokens in front of it normalize by themselves. Otherwise
these break off inside a text literal or a quoted identifier, and the unit takes the token up. -/
theorem normalize_flagged {before after out : List ScopedToken} {token : ScopedToken}
    (h : normalize (before ++ token :: after) = .ok out) (hmerged : token.merged = true)
    (hscopes : 2 ≤ token.scopes.length) :
    (∃ first later, normalize before = .ok first ∧ normalize after = .ok later ∧
        out = first ++ token :: later) ∨
      Normalize.TakenUp 0 before token after out :=
  Normalize.units_flagged hmerged hscopes h

/-- A comment stops in front of a flagged token that adjoins it and carries its label. -/
theorem normalize_flagged_comment :
    let opener : ScopedToken := ⟨0, 2, ["source.powerquery", Label.blockComment], false⟩
    let token : ScopedToken := ⟨2, 5, ["source.powerquery", Label.blockComment], true⟩
    let closer : ScopedToken :=
      ⟨5, 7, ["source.powerquery", Label.blockComment, Label.blockCommentEnd], false⟩
    ∃ out, normalize ([opener] ++ token :: [closer]) = .ok out ∧ token ∈ out ∧ out.length = 3 := by
  intro opener token closer
  have hok : normalize ([opener] ++ token :: [closer]) = .ok
      [⟨0, 2, ["source.powerquery", Label.blockComment], true⟩, token,
        ⟨5, 7, ["source.powerquery", Label.blockComment], true⟩] := by decide
  have hfront : normalize [opener] =
      .ok [⟨0, 2, ["source.powerquery", Label.blockComment], true⟩] := by decide
  refine ⟨_, hok, ?_, rfl⟩
  rcases normalize_flagged hok rfl (by decide) with ⟨first, later, -, -, hout⟩ | htaken
  · rw [hout]
    exact List.mem_append_right _ List.mem_cons_self
  · obtain ⟨_, _, _, _, _, _, _, _, _, _, _, _, _, hexhausted, _⟩ := htaken
    cases hfront.symm.trans hexhausted

/-- A text literal whose content is flagged. -/
def flaggedContent : List ScopedToken :=
  [⟨0, 1, ["source.powerquery", Label.string, Label.stringBegin], false⟩,
    ⟨1, 3, ["source.powerquery", Label.string], true⟩,
    ⟨3, 4, ["source.powerquery", Label.string, Label.stringEnd], false⟩]

/-- The literal takes its content up, so not every flagged token stays. -/
theorem not_flagged_mem :
    ¬ ∀ tokens out : List ScopedToken, normalize tokens = .ok out → ∀ token ∈ tokens,
      token.merged = true → 2 ≤ token.scopes.length → token ∈ out := by
  intro hall
  have hok : normalize flaggedContent = .ok [⟨0, 4, ["source.powerquery", Label.string], true⟩] := by
    decide
  have hmem := hall _ _ hok ⟨1, 3, ["source.powerquery", Label.string], true⟩ (by decide) rfl
    (by decide)
  revert hmem
  decide

end TokenConcord
