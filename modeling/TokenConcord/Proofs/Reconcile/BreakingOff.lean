import TokenConcord.Proofs.Reconcile.Flagged

/-!
# Where units break off

Tokens fail to normalize at the first unit that is incomplete. The tokens in front of its opener
normalize by themselves. The tokens behind it end before the unit does, or one of them cannot be
part of it, and the first such token is the one that the fault names.
-/

namespace TokenConcord

open Outcome

/-! ## Incomplete units -/

namespace NormalizeError

/-- The unit that is incomplete. -/
def compound : NormalizeError → Compound
  | exhausted compound _ _ => compound
  | mislabeled compound _ _ _ _ => compound

/-- Number of the token that begins the unit. -/
def openedAt : NormalizeError → Nat
  | exhausted _ openedAt _ => openedAt
  | mislabeled _ openedAt _ _ _ => openedAt

end NormalizeError

namespace Compound

/-- The token begins the unit. One with the labels of both units begins a quoted identifier. -/
def BegunBy (token : ScopedToken) : Compound → Prop
  | quotedIdentifier => token.hasScope Label.quotedIdentifierBegin = true
  | string => token.hasScope Label.stringBegin = true ∧
      token.hasScope Label.quotedIdentifierBegin = false

/-- The tokens behind the opener belong to the unit and end before it does. A token with the label
would have to follow. -/
inductive CutShort : Compound → List ScopedToken → String → Prop
  | string {behind : List ScopedToken} : (∀ token ∈ behind, token.ContinuesText) →
      CutShort .string behind Label.stringEnd
  | content : CutShort .quotedIdentifier [] Label.identifier
  | closer {content : ScopedToken} : content.innermost? = some Label.identifier →
      CutShort .quotedIdentifier [content] Label.quotedIdentifierEnd

/-- The tokens right behind the opener belong to the unit, and the token behind them does not: it
lacks the label. -/
inductive Interrupted : Compound → List ScopedToken → ScopedToken → String → Prop
  | string {inner : List ScopedToken} {token : ScopedToken} :
      (∀ other ∈ inner, other.ContinuesText) → token.hasScope Label.string = false →
      token.hasScope Label.stringEnd = false → Interrupted .string inner token Label.string
  | content {token : ScopedToken} : token.innermost? ≠ some Label.identifier →
      Interrupted .quotedIdentifier [] token Label.identifier
  | closer {content token : ScopedToken} : content.innermost? = some Label.identifier →
      token.hasScope Label.quotedIdentifierEnd = false →
      Interrupted .quotedIdentifier [content] token Label.quotedIdentifierEnd

variable {compound : Compound} {token : ScopedToken}

theorem begunBy_of_identifier (h : token.hasScope Label.quotedIdentifierBegin = true) :
    compound.BegunBy token ↔ compound = .quotedIdentifier := by
  cases compound <;> simp [BegunBy, h]

theorem begunBy_of_string (h : token.hasScope Label.quotedIdentifierBegin = false)
    (hstring : token.hasScope Label.stringBegin = true) :
    compound.BegunBy token ↔ compound = .string := by
  cases compound <;> simp [BegunBy, h, hstring]

theorem not_begunBy (h : token.hasScope Label.quotedIdentifierBegin = false)
    (hstring : token.hasScope Label.stringBegin = false) : ¬ compound.BegunBy token := by
  cases compound <;> simp [BegunBy, h, hstring]

end Compound

namespace Normalize

/-- The fault reports how the tokens behind the opener leave its unit incomplete. -/
inductive BreaksOff (openedAt : Nat) (behind : List ScopedToken) : NormalizeError → Prop
  | exhausted {compound : Compound} {expected : String} :
      compound.CutShort behind expected →
      BreaksOff openedAt behind (.exhausted compound openedAt expected)
  | mislabeled {compound : Compound} {inner later : List ScopedToken} {token : ScopedToken}
      {expected : String} : behind = inner ++ token :: later →
      compound.Interrupted inner token expected →
      BreaksOff openedAt behind (.mislabeled compound openedAt (openedAt + 1 + inner.length)
        expected (Text.joinWith " " token.scopes))

variable {index openedAt : Nat} {opener token : ScopedToken}
  {tokens inner behind out : List ScopedToken} {fault : NormalizeError}

/-! ## Units one by one -/

theorem quotedIdentifier_error_iff :
    quotedIdentifier openedAt opener behind = .error fault ↔
      fault.compound = .quotedIdentifier ∧ BreaksOff openedAt behind fault := by
  constructor
  · intro h
    unfold quotedIdentifier at h
    split at h
    next =>
      cases h
      exact ⟨rfl, .exhausted .content⟩
    next content behind =>
      split at h
      next hcontent =>
        split at h
        next =>
          cases h
          exact ⟨rfl, .exhausted (.closer hcontent)⟩
        next closer later =>
          split at h
          next => cases h
          next hcloser =>
            cases h
            have hbehind : content :: closer :: later = [content] ++ closer :: later := rfl
            exact ⟨rfl, .mislabeled hbehind (.closer hcontent (Bool.eq_false_iff.mpr hcloser))⟩
      next hcontent =>
        cases h
        have hbehind : content :: behind = [] ++ content :: behind := rfl
        exact ⟨rfl, .mislabeled hbehind (.content hcontent)⟩
  · rintro ⟨hcompound, hbreaks⟩
    cases hbreaks with
    | exhausted hcut =>
        cases hcut with
        | string => cases hcompound
        | content => rfl
        | closer hcontent => rw [quotedIdentifier, if_pos hcontent]
    | mislabeled hbehind hinterrupted =>
        subst hbehind
        cases hinterrupted with
        | string => cases hcompound
        | content hcontent => exact if_neg hcontent
        | closer hcontent hcloser =>
            rw [List.singleton_append, quotedIdentifier, if_pos hcontent]
            exact if_neg (Bool.eq_false_iff.mp hcloser)

theorem stringEnd_error (h : stringEnd openedAt index tokens = .error fault) :
    ((∀ token ∈ tokens, token.ContinuesText) ∧
        fault = .exhausted .string openedAt Label.stringEnd) ∨
      ∃ inner token later, tokens = inner ++ token :: later ∧
        Compound.Interrupted .string inner token Label.string ∧
        fault = mislabeled .string openedAt (index + inner.length) Label.string token := by
  induction tokens generalizing index with
  | nil =>
      cases h
      exact Or.inl ⟨fun _ hmem => absurd hmem List.not_mem_nil, rfl⟩
  | cons token tokens ih =>
      rw [stringEnd] at h
      split at h
      next => cases h
      next hend =>
        have hend : token.hasScope Label.stringEnd = false := Bool.eq_false_iff.mpr hend
        split at h
        next hstring =>
          rcases bind_error_iff.mp h with hrest | ⟨_, _, hpure⟩
          · rcases ih hrest with ⟨hinside, rfl⟩ | ⟨inner, first, later, rfl, hfirst, rfl⟩
            · exact Or.inl ⟨List.forall_mem_cons.mpr ⟨⟨hstring, hend⟩, hinside⟩, rfl⟩
            · refine Or.inr ⟨token :: inner, first, later, rfl, ?_, ?_⟩
              · cases hfirst with
                | string hinner hnone hopen =>
                    exact .string (List.forall_mem_cons.mpr ⟨⟨hstring, hend⟩, hinner⟩) hnone hopen
              · rw [List.length_cons, Nat.add_assoc, Nat.add_comm 1]
          · exact absurd hpure pure_ne_error
        next hstring =>
          cases h
          have hnone : token.hasScope Label.string = false := Bool.eq_false_iff.mpr hstring
          exact Or.inr ⟨[], token, tokens, rfl,
            .string (fun _ hmem => absurd hmem List.not_mem_nil) hnone hend, rfl⟩

theorem string_error_iff :
    string openedAt opener behind = .error fault ↔
      fault.compound = .string ∧ BreaksOff openedAt behind fault := by
  have hstring : string openedAt opener behind = .error fault ↔
      stringEnd openedAt (openedAt + 1) behind = .error fault := by
    rw [string, bind_error_iff]
    refine or_iff_left ?_
    rintro ⟨_, _, h⟩
    exact pure_ne_error h
  rw [hstring]
  constructor
  · intro h
    rcases stringEnd_error h with ⟨hinside, rfl⟩ | ⟨inner, token, later, hbehind, htoken, rfl⟩
    · exact ⟨rfl, .exhausted (.string hinside)⟩
    · exact ⟨rfl, .mislabeled hbehind htoken⟩
  · rintro ⟨hcompound, hbreaks⟩
    cases hbreaks with
    | exhausted hcut =>
        cases hcut with
        | string hinside =>
            exact stringEnd_exhausted hinside openedAt (openedAt + 1)
        | content => cases hcompound
        | closer => cases hcompound
    | mislabeled hbehind hinterrupted =>
        subst hbehind
        cases hinterrupted with
        | string hinner hnone hend =>
            rw [stringEnd_through hinner, stringEnd, hend, hnone]
            rfl
        | content => cases hcompound
        | closer => cases hcompound

/-- A token fails to give a unit exactly if it begins one and the tokens behind it leave that
incomplete. -/
theorem unit_error_iff :
    unit openedAt opener behind = .error fault ↔
      opener.merged = false ∧ fault.compound.BegunBy opener ∧ BreaksOff openedAt behind fault := by
  by_cases hmerged : opener.merged = true
  · rw [unit, if_pos hmerged]
    exact iff_of_false (fun h => by cases h) fun h => Bool.eq_false_iff.mp h.1 hmerged
  have hunmerged : opener.merged = false := Bool.eq_false_iff.mpr hmerged
  by_cases hidentifier : opener.hasScope Label.quotedIdentifierBegin = true
  · rw [unit, if_neg hmerged, if_pos hidentifier, quotedIdentifier_error_iff,
      Compound.begunBy_of_identifier hidentifier, and_iff_right hunmerged]
  have hplain : opener.hasScope Label.quotedIdentifierBegin = false :=
    Bool.eq_false_iff.mpr hidentifier
  by_cases hstring : opener.hasScope Label.stringBegin = true
  · rw [unit, if_neg hmerged, if_neg hidentifier, if_pos hstring, string_error_iff,
      Compound.begunBy_of_string hplain hstring, and_iff_right hunmerged]
  · rw [unit, if_neg hmerged, if_neg hidentifier, if_neg hstring]
    refine iff_of_false (fun h => ?_) fun h =>
      Compound.not_begunBy hplain (Bool.eq_false_iff.mpr hstring) h.2.1
    split at h <;> cases h

/-! ## The first unit that is incomplete -/

/-- Tokens that do not normalize break off at a token that does not give a unit. Those in front of
it normalize by themselves. -/
theorem units_error (h : units index 0 tokens = .error fault) :
    ∃ before opener behind out, tokens = before ++ opener :: behind ∧
      units index 0 before = .ok out ∧ 2 ≤ opener.scopes.length ∧
      unit (index + before.length) opener behind = .error fault := by
  induction hlength : tokens.length using Nat.strongRecOn generalizing tokens index with
  | ind length ih =>
      subst hlength
      cases tokens with
      | nil => cases h
      | cons token tokens =>
          by_cases hblank : token.scopes.length ≤ 1
          · rw [units_blank hblank] at h
            obtain ⟨before, opener, behind, out, rfl, hbefore, hscopes, hunit⟩ :=
              ih tokens.length (Nat.lt_succ_self _) h rfl
            refine ⟨token :: before, opener, behind, out, rfl, ?_, hscopes, ?_⟩
            · rw [units_blank hblank, hbefore]
            · rwa [List.length_cons, Nat.add_comm before.length, ← Nat.add_assoc]
          have hscopes : 2 ≤ token.scopes.length := Nat.lt_of_not_le hblank
          cases hunit : unit index token tokens with
          | error other =>
              rw [units, if_neg hblank, hunit] at h
              cases h
              exact ⟨[], token, tokens, [], rfl, rfl, hscopes, hunit⟩
          | ok found =>
              obtain ⟨merged, count⟩ := found
              have hcount := (unit_ok hunit).1
              rw [units_unit hscopes hunit hcount, map_error_iff] at h
              have hlt : (tokens.drop count).length < (token :: tokens).length := by
                rw [List.length_drop, List.length_cons]
                omega
              obtain ⟨before, opener, behind, out, hdrop, hbefore, hopener, hfault⟩ :=
                ih _ hlt h rfl
              -- The unit in front stays one where the tokens are cut off behind it.
              have hleads := leads_unit hscopes hunit
              have htake : (token :: tokens.take count).length = 1 + count := by
                rw [List.length_cons, List.length_take_of_le hcount, Nat.add_comm]
              refine ⟨token :: tokens.take count ++ before, opener, behind, merged :: out, ?_, ?_,
                hopener, ?_⟩
              · rw [List.append_assoc, ← hdrop, List.cons_append, List.take_append_drop]
              · rw [hleads index before (hdrop ▸ List.prefix_append _ _), htake, ← Nat.add_assoc,
                  hbefore]
                rfl
              · rwa [List.length_append, htake, ← Nat.add_assoc, ← Nat.add_assoc]

end Normalize

/-- Tokens that do not normalize break off inside a unit, and the fault tells where. The tokens in
front of its opener normalize by themselves; the opener is not flagged, has more scopes than the
root's and carries the label that begins the unit. The unit is exhausted exactly if the tokens
behind the opener belong to it and end before it does. A token is mislabeled exactly if it is the
first one behind the opener that cannot be part of the unit; the fault has its number, the label
that it lacks and its scopes. -/
theorem normalize_breaks_off {tokens : List ScopedToken} {fault : NormalizeError}
    (h : normalize tokens = .error fault) :
    ∃ before opener behind, tokens = before ++ opener :: behind ∧
      before.length = fault.openedAt ∧ (∃ out, normalize before = .ok out) ∧
      opener.merged = false ∧ 2 ≤ opener.scopes.length ∧ fault.compound.BegunBy opener ∧
      (∀ expected, fault = .exhausted fault.compound fault.openedAt expected ↔
        fault.compound.CutShort behind expected) ∧
      ∀ index expected found,
        fault = .mislabeled fault.compound fault.openedAt index expected found ↔
          ∃ inner token later, behind = inner ++ token :: later ∧
            fault.compound.Interrupted inner token expected ∧
            index = fault.openedAt + 1 + inner.length ∧
            found = Text.joinWith " " token.scopes := by
  obtain ⟨before, opener, behind, out, rfl, hbefore, hscopes, hunit⟩ := Normalize.units_error h
  rw [Nat.zero_add] at hunit
  obtain ⟨hmerged, hbegun, hbreaks⟩ := Normalize.unit_error_iff.mp hunit
  have hopened : before.length = fault.openedAt := by cases hbreaks <;> rfl
  -- No other fault of the same unit reports how it breaks off.
  have hunique : ∀ other, other.compound = fault.compound →
      (fault = other ↔ Normalize.BreaksOff fault.openedAt behind other) := by
    rw [hopened] at hunit hbreaks
    intro other hcompound
    refine ⟨fun heq => heq ▸ hbreaks, fun hother => ?_⟩
    have hagain := Normalize.unit_error_iff.mpr ⟨hmerged, hcompound ▸ hbegun, hother⟩
    exact Except.error.inj (hunit.symm.trans hagain)
  refine ⟨before, opener, behind, rfl, hopened, ⟨out, hbefore⟩, hmerged, hscopes, hbegun, ?_, ?_⟩
  · intro expected
    refine (hunique (.exhausted _ _ expected) rfl).trans ⟨fun hother => ?_, .exhausted⟩
    cases hother with
    | exhausted hcut => exact hcut
  · intro index expected found
    refine (hunique (.mislabeled _ _ index expected found) rfl).trans ?_
    constructor
    · intro hother
      cases hother with
      | mislabeled hbehind htoken => exact ⟨_, _, _, hbehind, htoken, rfl, rfl⟩
    · rintro ⟨inner, token, later, hbehind, htoken, rfl, rfl⟩
      exact .mislabeled hbehind htoken

/-- An operator inside a text literal behind a comment of two tokens. -/
theorem normalize_breaks_off_operator :
    let tokens : List ScopedToken :=
      [⟨0, 2, ["source.powerquery", Label.blockComment], false⟩,
        ⟨2, 4, ["source.powerquery", Label.blockComment, Label.blockCommentEnd], false⟩,
        ⟨4, 5, ["source.powerquery", Label.string, Label.stringBegin], false⟩,
        ⟨5, 7, ["source.powerquery", Label.string], false⟩,
        ⟨7, 8, ["source.powerquery", "keyword.operator.arithmetic.powerquery"], false⟩]
    normalize tokens = .error (.mislabeled .string 2 4 Label.string
      "source.powerquery keyword.operator.arithmetic.powerquery") ∧
    ∃ before opener behind, tokens = before ++ opener :: behind ∧ before.length = 2 ∧
      (∃ out, normalize before = .ok out) ∧
      ∃ inner token later, behind = inner ++ token :: later ∧
        Compound.Interrupted .string inner token Label.string := by
  intro tokens
  have hfault : normalize tokens = .error (.mislabeled .string 2 4 Label.string
      "source.powerquery keyword.operator.arithmetic.powerquery") := by decide +kernel
  obtain ⟨before, opener, behind, htokens, hlength, hbefore, -, -, -, -, hmislabeled⟩ :=
    normalize_breaks_off hfault
  obtain ⟨inner, token, later, hbehind, htoken, -⟩ := (hmislabeled _ _ _).mp rfl
  exact ⟨hfault, before, opener, behind, htokens, hlength, hbefore, inner, token, later, hbehind,
    htoken⟩

end TokenConcord
