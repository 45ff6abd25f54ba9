import Mathlib.Data.List.Forall2
import Mathlib.Data.List.ReduceOption
import TokenConcord.Proofs.Grammar.Tiling
import TokenConcord.Proofs.Outcome
import TokenConcord.Reconcile.Normalize

/-!
# Segments of a normalized line

Normalizing cuts the tokens of a line into consecutive segments. A segment is a single blank,
which is dropped, or it becomes one unit that reaches from its first token to its last one.
Over tokens that tile a line, units are therefore in order and apart from one another, and
every byte under more scopes than the root's lies in exactly one of them.
-/

namespace TokenConcord

open Normalize

/-- The token carries the label of something that is merged. -/
def ScopedToken.Opens (token : ScopedToken) : Prop :=
  token.hasScope Label.quotedIdentifierBegin ∨ token.hasScope Label.stringBegin ∨
    token.hasScope Label.blockComment

/-- The token goes on with a text literal and does not close it. -/
def ScopedToken.ContinuesText (token : ScopedToken) : Prop :=
  token.hasScope Label.string = true ∧ token.hasScope Label.stringEnd = false

/-- What becomes of a segment: nothing, or one unit. -/
inductive Becomes : List ScopedToken → Option ScopedToken → Prop
  | dropped {token : ScopedToken} (blank : token.scopes.length ≤ 1) : Becomes [token] none
  | unit {first : ScopedToken} {others : List ScopedToken} {unit : ScopedToken}
      (labelled : 2 ≤ first.scopes.length) (start : unit.start = first.start)
      (stop : unit.stop = ((first :: others).getLast (List.cons_ne_nil _ _)).stop)
      (unchanged : others = [] → first.merged ∨ ¬first.Opens → unit = first) :
      Becomes (first :: others) (some unit)

namespace Normalize

/-! ## What a token begins -/

/-- What a token begins, wherever it stands. -/
inductive Begins (opener : ScopedToken) : Prop
  /-- The token is a unit of its own. -/
  | single (kept : opener.merged ∨ ¬opener.Opens)
      (unit_eq : ∀ index tokens, unit index opener tokens = .ok (opener, 0))
  | quotedIdentifier (unmerged : opener.merged = false)
      (opens : opener.hasScope Label.quotedIdentifierBegin = true)
      (unit_eq : ∀ index tokens, unit index opener tokens = quotedIdentifier index opener tokens)
  | string (unmerged : opener.merged = false) (opens : opener.hasScope Label.stringBegin = true)
      (unit_eq : ∀ index tokens, unit index opener tokens = string index opener tokens)
  | comment (unmerged : opener.merged = false) (opens : opener.hasScope Label.blockComment = true)
      (unit_eq : ∀ index tokens, unit index opener tokens = .ok (blockComment opener tokens))

theorem begins (opener : ScopedToken) : Begins opener := by
  by_cases hmerged : opener.merged = true
  · exact .single (Or.inl hmerged) fun index tokens => by rw [unit, if_pos hmerged]
  have hunmerged : opener.merged = false := Bool.eq_false_iff.mpr hmerged
  by_cases hidentifier : opener.hasScope Label.quotedIdentifierBegin = true
  · exact .quotedIdentifier hunmerged hidentifier fun index tokens => by
      rw [unit, if_neg hmerged, if_pos hidentifier]
  by_cases hstring : opener.hasScope Label.stringBegin = true
  · exact .string hunmerged hstring fun index tokens => by
      rw [unit, if_neg hmerged, if_neg hidentifier, if_pos hstring]
  by_cases hcomment : opener.hasScope Label.blockComment = true
  · exact .comment hunmerged hcomment fun index tokens => by
      rw [unit, if_neg hmerged, if_neg hidentifier, if_neg hstring, if_pos hcomment]
  have hopens : ¬opener.Opens := by
    rintro (hopens | hopens | hopens)
    · exact hidentifier hopens
    · exact hstring hopens
    · exact hcomment hopens
  exact .single (Or.inr hopens) fun index tokens => by
    rw [unit, if_neg hmerged, if_neg hidentifier, if_neg hstring, if_neg hcomment]

/-! ## What a unit takes up -/

variable {index count : Nat} {opener token merged : ScopedToken}
  {front tokens : List ScopedToken}

/-- Tokens that belong to a unit found before are passed over. -/
theorem units_skip (index skip : Nat) (tokens : List ScopedToken) :
    units index skip tokens = units (index + min skip tokens.length) 0 (tokens.drop skip) := by
  induction tokens generalizing index skip with
  | nil => simp [units]
  | cons token tokens ih =>
      cases skip with
      | zero => simp
      | succ skip =>
          rw [units, ih, List.drop_succ_cons, List.length_cons, Nat.add_min_add_right,
            Nat.add_assoc, Nat.add_comm 1]

/-- Where the units of a list begin with a blank. -/
theorem units_blank {index : Nat} {token : ScopedToken} {tokens : List ScopedToken}
    (h : token.scopes.length ≤ 1) :
    units index 0 (token :: tokens) = units (index + 1) 0 tokens := by
  rw [units, if_pos h]

/-- Where the units of a list begin with one that takes up some of the tokens behind its
first. -/
theorem units_unit {index count : Nat} {token merged : ScopedToken} {tokens : List ScopedToken}
    (h : 2 ≤ token.scopes.length) (hunit : unit index token tokens = .ok (merged, count))
    (hcount : count ≤ tokens.length) :
    units index 0 (token :: tokens) =
      (units (index + 1 + count) 0 (tokens.drop count)).map (merged :: ·) := by
  rw [units, if_neg (Nat.not_le.mpr h), hunit]
  change (do return merged :: (← units (index + 1) count tokens)) = _
  rw [units_skip, Nat.min_eq_left hcount]
  cases units (index + 1 + count) 0 (tokens.drop count) <;> rfl

/-- A quoted identifier has a content and a closer behind its opener. -/
theorem quotedIdentifier_ok
    (h : quotedIdentifier index opener tokens = .ok (merged, count)) :
    ∃ content closer rest, tokens = content :: closer :: rest ∧
      content.innermost? = some Label.identifier ∧
      closer.hasScope Label.quotedIdentifierEnd = true ∧
      (⟨opener.start, closer.stop, content.scopes, true⟩, 2) = (merged, count) := by
  unfold quotedIdentifier at h
  split at h
  · cases h
  next content tokens =>
    split at h
    next hcontent =>
      split at h
      · cases h
      next closer rest =>
        split at h
        next hcloser => exact ⟨content, closer, rest, rfl, hcontent, hcloser, Except.ok.inj h⟩
        next => cases h
    next => cases h

/-- A string has an end, and keeps the first scope of its opener. -/
theorem string_ok (h : string index opener tokens = .ok (merged, count)) :
    ∃ stop, stringEnd index (index + 1) tokens = .ok (stop, count) ∧
      merged = ⟨opener.start, stop, [opener.scopes.headD "", Label.string], true⟩ := by
  obtain ⟨⟨stop, count'⟩, hend, heq⟩ := Outcome.bind_ok_iff.mp h
  cases heq
  exact ⟨stop, hend, rfl⟩

/-! ### Ends of strings -/

section StringEnd

variable {openedAt index stop count : Nat} {tokens inner : List ScopedToken} {closer : ScopedToken}

/-- A string goes on through tokens inside it. -/
theorem stringEnd_through (h : ∀ token ∈ inner, token.ContinuesText) (openedAt index : Nat)
    (later : List ScopedToken) :
    stringEnd openedAt index (inner ++ later) =
      (stringEnd openedAt (index + inner.length) later).map
        fun found => (found.1, found.2 + inner.length) := by
  induction inner generalizing index with
  | nil =>
      rw [List.nil_append, List.length_nil, Nat.add_zero]
      cases stringEnd openedAt index later <;> rfl
  | cons token inner ih =>
      obtain ⟨⟨hstring, hend⟩, hinner⟩ := List.forall_mem_cons.mp h
      rw [List.cons_append, stringEnd, hend, hstring, ih hinner, List.length_cons,
        Nat.add_assoc index, Nat.add_comm 1]
      cases stringEnd openedAt (index + (inner.length + 1)) later <;> rfl

theorem stringEnd_exhausted (h : ∀ token ∈ tokens, token.ContinuesText) (openedAt index : Nat) :
    stringEnd openedAt index tokens = .error (.exhausted .string openedAt Label.stringEnd) := by
  rw [← List.append_nil tokens, stringEnd_through h]
  rfl

/-- A string ends with its closer. -/
theorem stringEnd_inner (h : ∀ token ∈ inner, token.ContinuesText)
    (hcloser : closer.hasScope Label.stringEnd = true) (openedAt index : Nat)
    (later : List ScopedToken) :
    stringEnd openedAt index (inner ++ closer :: later) =
      .ok (closer.stop, inner.length + 1) := by
  rw [stringEnd_through h, stringEnd, hcloser, Nat.add_comm inner.length]
  rfl

/-- What a string takes up is tokens inside it and its closer. -/
theorem stringEnd_ok (h : stringEnd openedAt index tokens = .ok (stop, count)) :
    ∃ inner closer later, tokens = inner ++ closer :: later ∧
      (∀ token ∈ inner, token.ContinuesText) ∧ closer.hasScope Label.stringEnd = true ∧
      (closer.stop, inner.length + 1) = (stop, count) := by
  induction tokens generalizing index stop count with
  | nil => cases h
  | cons token tokens ih =>
      rw [stringEnd] at h
      split at h
      next hend =>
        exact ⟨[], token, tokens, rfl, fun _ hmem => absurd hmem List.not_mem_nil, hend,
          Except.ok.inj h⟩
      next hend =>
        split at h
        next hstring =>
          obtain ⟨⟨stop, count⟩, hrest, heq⟩ := Outcome.bind_ok_iff.mp h
          obtain ⟨inner, closer, later, rfl, hinner, hcloser, hfound⟩ := ih hrest
          cases hfound
          exact ⟨token :: inner, closer, later, rfl,
            List.forall_mem_cons.mpr ⟨⟨hstring, Bool.eq_false_iff.mpr hend⟩, hinner⟩, hcloser,
            Except.ok.inj heq⟩
        next => cases h

/-- A token that is no end of a string stands behind it, or inside it and in front of its closer. -/
theorem stringEnd_stands {front : List ScopedToken} {token : ScopedToken}
    (htoken : token.hasScope Label.stringEnd = false)
    (h : stringEnd openedAt index (front ++ token :: tokens) = .ok (stop, count)) :
    count ≤ front.length ∨
      token.ContinuesText ∧ ∃ closer ∈ tokens, closer.hasScope Label.stringEnd = true := by
  obtain ⟨inner, closer, later, hsplit, hinner, hcloser, hfound⟩ := stringEnd_ok h
  cases hfound
  have hne : token ≠ closer := by
    rintro rfl
    rw [htoken] at hcloser
    cases hcloser
  rcases List.append_eq_append_iff.mp hsplit with ⟨between, rfl, hbehind⟩ | ⟨between, rfl, hbehind⟩
  · cases between with
    | nil => exact absurd (List.cons.inj hbehind).1 hne
    | cons _ between =>
        cases hbehind
        exact Or.inr ⟨hinner token (by simp), closer, by simp, hcloser⟩
  · cases between with
    | nil => exact absurd (List.cons.inj hbehind).1.symm hne
    | cons _ between =>
        left
        rw [List.length_append, List.length_cons]
        omega

theorem stringEnd_bounds (opener : ScopedToken)
    (h : stringEnd openedAt index tokens = .ok (stop, count)) :
    0 < count ∧ count ≤ tokens.length ∧
      stop = ((opener :: tokens.take count).getLast (List.cons_ne_nil _ _)).stop := by
  obtain ⟨inner, closer, later, rfl, -, -, hfound⟩ := stringEnd_ok h
  cases hfound
  have htake : (inner ++ closer :: later).take (inner.length + 1) = inner ++ [closer] :=
    List.take_length_add_append 1
  refine ⟨Nat.succ_pos _, by simp, ?_⟩
  simp [htake]

end StringEnd

theorem commentEnd_bounds {stop count : Nat} (opener : ScopedToken)
    {tokens : List ScopedToken} (h : commentEnd opener.stop tokens = (stop, count)) :
    count ≤ tokens.length ∧
      stop = ((opener :: tokens.take count).getLast (List.cons_ne_nil _ _)).stop := by
  induction tokens generalizing opener stop count with
  | nil =>
      cases h
      simp
  | cons token tokens ih =>
      rw [commentEnd] at h
      split at h
      · cases h
        simp
      · split at h
        · cases h
          simp
        · obtain ⟨hle, hstop⟩ := ih token rfl
          cases h
          refine ⟨Nat.succ_le_succ hle, hstop.trans ?_⟩
          simp only [List.take_succ_cons, List.getLast_cons_cons]

theorem blockComment_closed (h : opener.hasScope Label.blockCommentEnd = true)
    (tokens : List ScopedToken) :
    blockComment opener tokens =
      (⟨opener.start, opener.stop, commentScopes opener.scopes, true⟩, 0) := by
  rw [blockComment, if_pos h]

theorem blockComment_open (h : ¬opener.hasScope Label.blockCommentEnd = true)
    (tokens : List ScopedToken) :
    blockComment opener tokens = (⟨opener.start, (commentEnd opener.stop tokens).1,
      commentScopes opener.scopes, true⟩, (commentEnd opener.stop tokens).2) := by
  rw [blockComment, if_neg h]

theorem blockComment_bounds (opener : ScopedToken) (tokens : List ScopedToken) :
    (blockComment opener tokens).2 ≤ tokens.length ∧
      (blockComment opener tokens).1.stop =
        ((opener :: tokens.take (blockComment opener tokens).2).getLast
          (List.cons_ne_nil _ _)).stop := by
  by_cases hend : opener.hasScope Label.blockCommentEnd = true
  · rw [blockComment_closed hend]
    exact ⟨Nat.zero_le _, rfl⟩
  · rw [blockComment_open hend]
    exact commentEnd_bounds opener rfl

/-- A comment takes up comment tokens only, and none that is flagged. -/
theorem commentEnd_takes {stop : Nat}
    (h : front.length < (commentEnd stop (front ++ token :: tokens)).2) :
    token.merged = false ∧ token.hasScope Label.blockComment = true := by
  induction front generalizing stop with
  | nil =>
      rw [List.nil_append, commentEnd] at h
      split at h
      · cases h
      next htoken =>
        simp only [Bool.or_eq_true, not_or, Bool.not_eq_true', Bool.not_eq_false] at htoken
        exact ⟨Bool.eq_false_iff.mpr htoken.1.1, htoken.2⟩
  | cons first front ih =>
      rw [List.cons_append, commentEnd] at h
      split at h
      · cases h
      · split at h
        · exact absurd h (by simp)
        · exact ih (Nat.lt_of_succ_lt_succ h)

theorem blockComment_takes
    (h : front.length < (blockComment opener (front ++ token :: tokens)).2) :
    token.merged = false ∧ token.hasScope Label.blockComment = true := by
  by_cases hend : opener.hasScope Label.blockCommentEnd = true
  · rw [blockComment_closed hend] at h
    cases h
  · rw [blockComment_open hend] at h
    exact commentEnd_takes h

/-- A unit begins where its opener does and stops where the last of its tokens does. A token
that takes up no other is left as it is, unless it is a comment of its own. -/
theorem unit_ok (h : unit index token tokens = .ok (merged, count)) :
    count ≤ tokens.length ∧ merged.start = token.start ∧
      merged.stop = ((token :: tokens.take count).getLast (List.cons_ne_nil _ _)).stop ∧
      (count = 0 → token.merged ∨ ¬token.Opens → merged = token) := by
  cases begins token with
  | single _ unit_eq =>
      cases (unit_eq index tokens).symm.trans h
      simp
  | quotedIdentifier _ _ unit_eq =>
      obtain ⟨content, closer, rest, rfl, -, -, hunit⟩ :=
        quotedIdentifier_ok ((unit_eq index tokens).symm.trans h)
      cases hunit
      simp
  | string _ _ unit_eq =>
      obtain ⟨stop, hend, rfl⟩ := string_ok ((unit_eq index tokens).symm.trans h)
      obtain ⟨hpos, hle, hstop⟩ := stringEnd_bounds token hend
      exact ⟨hle, rfl, hstop, fun hzero => absurd hzero (Nat.ne_of_gt hpos)⟩
  | comment unmerged opens unit_eq =>
      have hkept : ¬(token.merged ∨ ¬token.Opens) := by
        rintro (hflag | hclosed)
        · exact Bool.eq_false_iff.mp unmerged hflag
        · exact hclosed (Or.inr (Or.inr opens))
      obtain ⟨hle, hstop⟩ := blockComment_bounds token tokens
      cases (unit_eq index tokens).symm.trans h
      exact ⟨hle, rfl, hstop, fun _ hcase => absurd hcase hkept⟩

/-- The units of a list that begins with no blank are the unit of its first token and those of
the tokens behind it. -/
theorem units_cons_ok {index : Nat} {token : ScopedToken} {tokens out : List ScopedToken}
    (hlabelled : 2 ≤ token.scopes.length) (h : units index 0 (token :: tokens) = .ok out) :
    ∃ merged count later, unit index token tokens = .ok (merged, count) ∧
      units (index + 1) count tokens = .ok later ∧ out = merged :: later := by
  rw [units, if_neg (Nat.not_le.mpr hlabelled)] at h
  obtain ⟨⟨merged, count⟩, hunit, h⟩ := Outcome.bind_ok_iff.mp h
  obtain ⟨later, hrest, heq⟩ := Outcome.bind_ok_iff.mp h
  cases heq
  exact ⟨merged, count, later, hunit, hrest, rfl⟩

/-- Behind the first unit normalizing goes on with the tokens that it does not take up. -/
theorem units_behind_ok {index : Nat} {token : ScopedToken} {tokens out : List ScopedToken}
    (hlabelled : 2 ≤ token.scopes.length) (h : units index 0 (token :: tokens) = .ok out) :
    ∃ merged count later, unit index token tokens = .ok (merged, count) ∧
      units (index + 1 + count) 0 (tokens.drop count) = .ok later ∧ out = merged :: later := by
  obtain ⟨merged, count, later, hunit, hrest, rfl⟩ := units_cons_ok hlabelled h
  rw [units_skip, Nat.min_eq_left (unit_ok hunit).1] at hrest
  exact ⟨merged, count, later, hunit, hrest, rfl⟩

/-- The tokens of a line split into segments whose units are the result, in order. -/
theorem units_segments {index : Nat} {tokens out : List ScopedToken}
    (h : units index 0 tokens = .ok out) :
    ∃ segments results, segments.flatten = tokens ∧ List.Forall₂ Becomes segments results ∧
      results.reduceOption = out := by
  induction hlength : tokens.length using Nat.strongRecOn
    generalizing index tokens out with
  | ind length ih =>
      cases tokens with
      | nil =>
          cases h
          exact ⟨[], [], rfl, .nil, rfl⟩
      | cons token tokens =>
          rw [List.length_cons] at hlength
          by_cases hblank : token.scopes.length ≤ 1
          · rw [units_blank hblank] at h
            obtain ⟨segments, results, hflat, hbecomes, hresults⟩ :=
              ih tokens.length (by omega) h rfl
            exact ⟨[token] :: segments, none :: results, by simp [hflat],
              .cons (.dropped hblank) hbecomes, hresults⟩
          · have hlabelled : 2 ≤ token.scopes.length := Nat.lt_of_not_le hblank
            obtain ⟨merged, count, later, hunit, hrest, rfl⟩ := units_behind_ok hlabelled h
            obtain ⟨hcount, hstart, hstop, hkept⟩ := unit_ok hunit
            obtain ⟨segments, results, hflat, hbecomes, hresults⟩ :=
              ih (tokens.drop count).length (by rw [List.length_drop]; omega) hrest rfl
            refine ⟨(token :: tokens.take count) :: segments, some merged :: results,
              by simp [hflat], .cons (.unit hlabelled hstart hstop ?_) hbecomes, ?_⟩
            · intro hnone
              refine hkept ?_
              rcases List.take_eq_nil_iff.mp hnone with hzero | hnil
              · exact hzero
              · rw [hnil] at hcount
                exact Nat.le_zero.mp hcount
            · rw [List.reduceOption_cons_of_some, hresults]

end Normalize

/-! ## Units over a tiled line -/

section Tiled

variable {segments : List (List ScopedToken)} {results : List (Option ScopedToken)}
  {start stop : Nat}

/-- A unit takes up the stretch that its segment tiles. -/
theorem Becomes.bounds {segment : List ScopedToken} {unit : ScopedToken}
    (h : Becomes segment (some unit)) (htiles : Tiles start segment stop) :
    unit.start = start ∧ unit.stop = stop := by
  cases h with
  | unit labelled hstart hstop unchanged =>
      exact ⟨hstart.trans htiles.1, hstop.trans (htiles.getLast_stop _)⟩

/-- Units lie behind the start of what is tiled, each behind the one before it. -/
theorem Becomes.ordered (h : List.Forall₂ Becomes segments results)
    (htiles : Tiles start segments.flatten stop) :
    results.reduceOption.Pairwise (·.stop ≤ ·.start) ∧
      ∀ unit ∈ results.reduceOption, start ≤ unit.start := by
  induction h generalizing start with
  | nil => simp [List.reduceOption]
  | @cons segment result segments results hhead htail ih =>
      obtain ⟨middle, hsegment, hrest⟩ := Tiles.append_iff.mp htiles
      obtain ⟨hordered, hbehind⟩ := ih hrest
      have hle := hsegment.le
      cases result with
      | none =>
          exact ⟨hordered, fun unit hmem => Nat.le_trans hle (hbehind unit hmem)⟩
      | some unit =>
          obtain ⟨hstart, hstop⟩ := hhead.bounds hsegment
          rw [List.reduceOption_cons_of_some, List.pairwise_cons]
          refine ⟨⟨fun other hmem => by rw [hstop]; exact hbehind other hmem, hordered⟩, ?_⟩
          intro other hmem
          rcases List.mem_cons.mp hmem with rfl | hmem
          · exact Nat.le_of_eq hstart.symm
          · exact Nat.le_trans hle (hbehind other hmem)

theorem Becomes.length_le (h : List.Forall₂ Becomes segments results) :
    results.reduceOption.length ≤ segments.flatten.length := by
  induction h with
  | nil => simp [List.reduceOption]
  | @cons segment result segments results hhead _ ih =>
      cases hhead with
      | dropped blank =>
          rw [List.reduceOption_cons_of_none]
          simp only [List.flatten_cons, List.length_append, List.length_cons]
          omega
      | unit _ _ _ _ =>
          rw [List.reduceOption_cons_of_some]
          simp only [List.flatten_cons, List.length_append, List.length_cons]
          omega

/-- Every byte under a token with more scopes than the root's lies in one unit. -/
theorem Becomes.countP_covers (h : List.Forall₂ Becomes segments results)
    (htiles : Tiles start segments.flatten stop) {token : ScopedToken}
    (hmem : token ∈ segments.flatten) (hscopes : 2 ≤ token.scopes.length) {byte : Nat}
    (hbyte : token.Covers byte) :
    results.reduceOption.countP (·.Covers byte) = 1 := by
  induction h generalizing start with
  | nil => cases hmem
  | @cons segment result segments results hhead htail ih =>
      obtain ⟨middle, hsegment, hrest⟩ := Tiles.append_iff.mp htiles
      rcases List.mem_append.mp hmem with hmem | hmem
      · have hbounds := hsegment.mem_bounds hmem
        cases result with
        | none =>
            cases hhead with
            | dropped blank =>
                rw [List.mem_singleton] at hmem
                subst hmem
                omega
        | some unit =>
            obtain ⟨hstart, hstop⟩ := hhead.bounds hsegment
            have hcovers : unit.Covers byte :=
              ⟨by rw [hstart]; exact Nat.le_trans hbounds.1 hbyte.1,
                by rw [hstop]; exact Nat.lt_of_lt_of_le hbyte.2 hbounds.2⟩
            have hlater : results.reduceOption.countP (·.Covers byte) = 0 := by
              rw [List.countP_eq_zero]
              intro other hother hcovered
              have hbehind := (Becomes.ordered htail hrest).2 other hother
              have hfirst := (of_decide_eq_true hcovered).1
              have hlast := hbyte.2
              omega
            rw [List.reduceOption_cons_of_some, List.countP_cons, hlater]
            simp [hcovers]
      · have hcount := ih hrest hmem
        cases result with
        | none => exact hcount
        | some unit =>
            obtain ⟨_, hstop⟩ := hhead.bounds hsegment
            have hbounds := hrest.mem_bounds hmem
            have hbefore : ¬unit.Covers byte := by
              rintro ⟨_, hlt⟩
              have hfirst := hbyte.1
              omega
            rw [List.reduceOption_cons_of_some, List.countP_cons, hcount]
            simp [hbefore]

/-- A byte that no unit covers belongs to a blank. -/
theorem Becomes.exists_blank (h : List.Forall₂ Becomes segments results)
    (htiles : Tiles start segments.flatten stop) {byte : Nat} (hstart : start ≤ byte)
    (hstop : byte < stop) (hfree : ∀ unit ∈ results.reduceOption, ¬unit.Covers byte) :
    ∃ token ∈ segments.flatten, token.Covers byte ∧ token.scopes.length ≤ 1 := by
  obtain ⟨token, hmem, hcovers⟩ := htiles.exists_covers hstart hstop
  refine ⟨token, hmem, hcovers, Nat.not_lt.mp fun hscopes => ?_⟩
  have hcount := Becomes.countP_covers h htiles hmem hscopes hcovers
  have hnone : results.reduceOption.countP (·.Covers byte) = 0 := by
    simpa [List.countP_eq_zero] using hfree
  omega

end Tiled

/-- Normalizing loses and duplicates nothing: the tokens split into segments, each of which is
a blank or becomes the unit in its place. Over a tiled line the units are in order and apart,
no more than the tokens, and cover each byte under more scopes than the root's exactly once,
and else blanks alone stay uncovered. -/
theorem normalize_segments {tokens out : List ScopedToken} (h : normalize tokens = .ok out) :
    (∃ segments results, segments.flatten = tokens ∧ List.Forall₂ Becomes segments results ∧
      results.reduceOption = out) ∧
    ∀ width, Tiles 0 tokens width →
      out.Pairwise (·.stop ≤ ·.start) ∧ out.length ≤ tokens.length ∧
      (∀ token ∈ tokens, 2 ≤ token.scopes.length → ∀ byte, token.Covers byte →
        out.countP (·.Covers byte) = 1) ∧
      ∀ byte < width, (∀ unit ∈ out, ¬unit.Covers byte) →
        ∃ token ∈ tokens, token.Covers byte ∧ token.scopes.length ≤ 1 := by
  obtain ⟨segments, results, rfl, hbecomes, rfl⟩ := Normalize.units_segments h
  refine ⟨⟨segments, results, rfl, hbecomes, rfl⟩, fun width htiles => ?_⟩
  refine ⟨(Becomes.ordered hbecomes htiles).1, Becomes.length_le hbecomes, ?_, ?_⟩
  · intro token hmem hscopes byte hbyte
    exact Becomes.countP_covers hbecomes htiles hmem hscopes hbyte
  · intro byte hbyte hfree
    exact Becomes.exists_blank hbecomes htiles (Nat.zero_le _) hbyte hfree

/-- A text literal between two blanks, and a comment behind it. -/
theorem normalize_segments_literal :
    ∃ tokens out, normalize tokens = .ok out ∧ Tiles 0 tokens 9 ∧ out.length ≤ tokens.length ∧
      ∀ token ∈ tokens, 2 ≤ token.scopes.length → ∀ byte, token.Covers byte →
        out.countP (·.Covers byte) = 1 := by
  let root := "source.powerquery"
  let tokens : List ScopedToken :=
    [⟨0, 1, [root], false⟩, ⟨1, 2, [root, Label.string, Label.stringBegin], false⟩,
      ⟨2, 4, [root, Label.string], false⟩, ⟨4, 5, [root, Label.string, Label.stringEnd], false⟩,
      ⟨5, 6, [root], false⟩, ⟨6, 8, [root, Label.blockComment], false⟩,
      ⟨8, 9, [root, Label.blockComment], false⟩]
  let out : List ScopedToken :=
    [⟨1, 5, [root, Label.string], true⟩, ⟨6, 9, [root, Label.blockComment], true⟩]
  have hok : normalize tokens = .ok out := by decide
  have htiles : Tiles 0 tokens 9 := by decide
  have hline := (normalize_segments hok).2 9 htiles
  exact ⟨tokens, out, hok, htiles, hline.2.1, hline.2.2.1⟩

end TokenConcord
