import TokenConcord.Proofs.Grammar.Candidates
import TokenConcord.Proofs.Grammar.TakeAll

/-!
# The earliest match

What is found next can be looked for position by position, with all aims at each, or aim by aim,
with all positions for each. The second way keeps the earliest match found so far, the one
found first where several start together, and stops once a match starts where the search does.
Both ways find the same, and the second one does not fail.
-/

namespace TokenConcord.Grammar

/-! ## One aim after another -/

/-- The earlier one of two matches, the first one where they start together. -/
def earlier : Option Found → Option Found → Option Found
  | none, found => found
  | some best, none => some best
  | some best, some found =>
      if found.result.start < best.result.start then some found else some best

/-- What is found first among some aims. -/
def firstAmong (aims : List Aim) (cursor : Cursor) : Option Found :=
  cursor.search? fun cursor => aims.findSome? (·.at? cursor)

@[simp] theorem earlier_none (best : Option Found) : earlier best none = best := by
  cases best <;> rfl

theorem earlier_assoc (first second third : Option Found) :
    earlier (earlier first second) third = earlier first (earlier second third) := by
  cases first with
  | none => rfl
  | some first =>
      cases second with
      | none => rfl
      | some second =>
          cases third with
          | none => simp only [earlier_none]
          | some third => grind [earlier]

/-- Nothing is earlier than a match where the search starts. -/
theorem earlier_eq_left {offset : Nat} {best : Found} {next : Option Found}
    (hbest : best.result.start = offset) (hnext : ∀ found ∈ next, offset ≤ found.result.start) :
    earlier (some best) next = some best := by
  cases next with
  | none => rfl
  | some found =>
      have hle := hnext found rfl
      rw [earlier, if_neg (by omega)]

/-- A match is the earlier one if each other one starts behind it. -/
theorem earlier_eq_right {first : Option Found} {found : Found}
    (h : ∀ best ∈ first, found.result.start < best.result.start) :
    earlier first (some found) = some found := by
  cases first with
  | none => rfl
  | some best => rw [earlier, if_pos (h best rfl)]

theorem le_start_earlier {offset : Nat} {first second : Option Found}
    (hfirst : ∀ found ∈ first, offset ≤ found.result.start)
    (hsecond : ∀ found ∈ second, offset ≤ found.result.start) :
    ∀ found ∈ earlier first second, offset ≤ found.result.start := by
  cases first with
  | none => exact hsecond
  | some best =>
      cases second with
      | none => exact hfirst
      | some found =>
          rw [earlier]
          split
          · exact hsecond
          · exact hfirst

theorem Aim.at?_start {aim : Aim} {cursor : Cursor} {found : Found}
    (h : aim.at? cursor = some found) : found.result.start = cursor.offset := by
  cases aim with
  | closer pattern =>
      obtain ⟨result, hmatch, rfl⟩ := Option.map_eq_some_iff.mp h
      exact (Pattern.matchAt_within hmatch).1
  | rule id pattern =>
      obtain ⟨result, hmatch, rfl⟩ := Option.map_eq_some_iff.mp h
      exact (Pattern.matchAt_within (Option.filter_eq_some_iff.mp hmatch).1).1

theorem findSome?_start {aims : List Aim} {cursor : Cursor} {found : Found}
    (h : aims.findSome? (·.at? cursor) = some found) : found.result.start = cursor.offset := by
  obtain ⟨aim, _, haim⟩ := List.exists_of_findSome?_eq_some h
  exact Aim.at?_start haim

theorem firstAmong_start {aims : List Aim} {front rest : Text} {found : Found}
    (h : found ∈ firstAmong aims (.between front rest)) : front.width ≤ found.result.start := by
  obtain ⟨gap, after, rfl, hfound⟩ := Cursor.search?_eq_some h
  rw [findSome?_start hfound, Cursor.between_offset, Text.width_append]
  exact Nat.le_add_right _ _

theorem firstAmong_eq {aims : List Aim} {front rest : Text} {found : Found}
    (h : aims.findSome? (·.at? (.between front rest)) = some found) :
    firstAmong aims (.between front rest) = some found := Cursor.search?_of_some h

theorem firstAmong_cons {aims : List Aim} {front rest : Text} {c : Char}
    (h : aims.findSome? (·.at? (.between front (c :: rest))) = none) :
    firstAmong aims (.between front (c :: rest)) = firstAmong aims (.between (front ++ [c]) rest) := by
  rw [firstAmong, Cursor.search?_cons, h]
  rfl

/-- Where nothing is found the search goes on behind. -/
theorem lt_firstAmong_start {aims : List Aim} {front rest : Text} {found : Found}
    (h : aims.findSome? (·.at? (.between front rest)) = none)
    (hfound : found ∈ firstAmong aims (.between front rest)) :
    front.width < found.result.start := by
  cases rest with
  | nil => cases h.symm.trans hfound
  | cons c rest =>
      rw [firstAmong_cons h] at hfound
      have hle := firstAmong_start hfound
      have hpos := c.utf8Size_pos
      simp only [Text.width_append, Text.width_cons] at hle
      omega

theorem firstAmong_append (aims others : List Aim) (front rest : Text) :
    firstAmong (aims ++ others) (.between front rest) =
      earlier (firstAmong aims (.between front rest)) (firstAmong others (.between front rest)) := by
  cases haims : aims.findSome? (·.at? (.between front rest)) with
  | some found =>
      have hall : (aims ++ others).findSome? (·.at? (.between front rest)) = some found := by
        rw [List.findSome?_append, haims, Option.some_or]
      rw [firstAmong_eq hall, firstAmong_eq haims, earlier_eq_left (findSome?_start haims)]
      exact fun other hother => firstAmong_start hother
  | none =>
      have hall : (aims ++ others).findSome? (·.at? (.between front rest)) =
          others.findSome? (·.at? (.between front rest)) := by
        rw [List.findSome?_append, haims, Option.none_or]
      cases hothers : others.findSome? (·.at? (.between front rest)) with
      | some found =>
          rw [firstAmong_eq (hall.trans hothers), firstAmong_eq hothers, earlier_eq_right]
          intro best hbest
          have hlt := lt_firstAmong_start haims hbest
          rwa [findSome?_start hothers]
      | none =>
          -- Neither half finds anything here, so all three searches go on behind.
          cases rest with
          | nil =>
              have hfirst : firstAmong aims (.between front []) = none := haims
              rw [hfirst]
              exact (hall.trans hothers).trans hothers.symm
          | cons c rest =>
              rw [firstAmong_cons haims, firstAmong_cons hothers, firstAmong_cons (hall.trans hothers)]
              exact firstAmong_append aims others (front ++ [c]) rest

theorem firstAmong_nil (front rest : Text) : firstAmong [] (.between front rest) = none := by
  induction rest generalizing front with
  | nil => rfl
  | cons c rest ih =>
      rw [firstAmong_cons List.findSome?_nil]
      exact ih (front ++ [c])

theorem firstAmong_singleton (aim : Aim) (front rest : Text) :
    firstAmong [aim] (.between front rest) = aim.first? (.between front rest) := by
  have hsingle : ∀ cursor, [aim].findSome? (·.at? cursor) = aim.at? cursor := fun cursor => by
    rw [List.findSome?_cons, List.findSome?_nil]
    cases aim.at? cursor <;> rfl
  simp only [firstAmong, hsingle]
  cases aim with
  | closer pattern => exact Cursor.search?_map Found.closer pattern.matchAt front rest
  | rule id pattern => exact Cursor.search?_map (Found.rule id) pattern.nonEmptyAt front rest

/-! ## With failures -/

/-- The pattern that a rule starts with. A rule that groups other rules has none. -/
def opener? (rule : Rule) : Option Pattern :=
  match rule.kind with
  | .single pattern _ => some pattern
  | .span opener _ _ _ _ _ _ => some opener
  | .container _ => none

/-- Try rules in turn from a byte offset on. The earliest match so far is kept, and a match that
starts at the offset ends the search. -/
def earliestFrom (grammar : Grammar) (line : Text) (offset : Nat) :
    Option Found → List RuleId → Except Fault (Option Found)
  | best, [] => .ok best
  | best, id :: ids =>
      if best.any (·.result.start == offset) then .ok best
      else do
        match opener? (← grammar.ruleAt id) with
        | none => earliestFrom grammar line offset best ids
        | some pattern =>
            let found ← pattern.skipEmpty line (line.length + 2) offset
            earliestFrom grammar line offset (earlier best (found.map (.rule id))) ids

/-- Where the next match lies inside a frame, and whose it is, looked for from a byte offset
on. -/
def nextFrom (grammar : Grammar) (line : Text) (frame : Frame) (offset : Nat) :
    Except Fault (Option Found) := do
  match (← grammar.ruleAt frame.rule).kind with
  | .span _ closer _ _ _ false _ =>
      let found ← closer.firstFrom line offset
      let ids ← grammar.candidatesFrom frame.rule
      grammar.earliestFrom line offset (found.map .closer) ids
  | .span _ closer _ _ _ true _ =>
      let ids ← grammar.candidatesFrom frame.rule
      let best ← grammar.earliestFrom line offset none ids
      let found ← closer.firstFrom line offset
      return earlier best (found.map .closer)
  | _ =>
      let ids ← grammar.candidatesFrom frame.rule
      grammar.earliestFrom line offset none ids

variable {grammar : Grammar} {front rest : Text} {best : Option Found} {ids : List RuleId}

theorem ruleAim?_eq {id : RuleId} {rule : Rule} (h : grammar.rules[id]? = some rule) :
    grammar.ruleAim? id = (opener? rule).map (.rule id) := by
  obtain ⟨location, scopes, kind⟩ := rule
  rw [ruleAim?, h]
  cases kind <;> rfl

theorem earliestFrom_eq (hids : ∀ id ∈ ids, id < grammar.rules.length)
    (hbest : ∀ found ∈ best, front.width ≤ found.result.start) :
    grammar.earliestFrom (front ++ rest) front.width best ids =
      .ok (earlier best (firstAmong (ids.filterMap grammar.ruleAim?) (.between front rest))) := by
  induction ids generalizing best with
  | nil => rw [earliestFrom, List.filterMap_nil, firstAmong_nil, earlier_none]
  | cons id ids ih =>
      obtain ⟨hid, hids⟩ := List.forall_mem_cons.mp hids
      obtain ⟨rule, _, hget, hrule⟩ := ruleAt_of_lt hid
      rw [earliestFrom]
      split
      next hhere =>
        -- To stop early loses nothing, as no match starts before the offset.
        cases best with
        | none => cases hhere
        | some found =>
            have hstart : found.result.start = front.width := by simpa using hhere
            rw [earlier_eq_left hstart fun other hother => firstAmong_start hother]
      next =>
        rw [hrule, List.filterMap_cons, ruleAim?_eq hget]
        dsimp only [bind, Except.bind]
        cases opener? rule with
        | none => exact ih hids hbest
        | some pattern =>
            have hrounds : rest.length + 2 ≤ (front ++ rest).length + 2 := by
              rw [List.length_append]
              omega
            have hsingle : firstAmong [.rule id pattern] (.between front rest) =
                (pattern.firstNonEmpty? (.between front rest)).map (.rule id) :=
              firstAmong_singleton ..
            dsimp only [Option.map_some]
            -- The aims tried so far and the next one together are the aims tried after it.
            rw [Pattern.skipEmpty_width pattern hrounds, ← List.singleton_append,
              firstAmong_append, ← earlier_assoc, hsingle]
            refine ih hids (le_start_earlier hbest fun found hfound => ?_)
            rw [← hsingle] at hfound
            exact firstAmong_start hfound

/-- Looked for aim by aim, the next match is what it is position by position. -/
theorem nextFrom_eq (hclosed : grammar.Closed) {frame : Frame}
    (hframe : frame.rule < grammar.rules.length) :
    grammar.nextFrom (front ++ rest) frame front.width =
      .ok (grammar.nextMatch frame (.between front rest)) := by
  have hids := lt_of_mem_candidates hclosed hframe
  have hnone : ∀ found ∈ (none : Option Found), front.width ≤ found.result.start :=
    fun found hfound => by cases hfound
  have hcandidates := candidatesFrom_eq hclosed hframe
  obtain ⟨⟨location, scopes, kind⟩, _, hget, hrule⟩ := ruleAt_of_lt hframe
  change _ = Except.ok (firstAmong (grammar.aims frame) (.between front rest))
  rw [nextFrom, hrule, aims, closer?, hget]
  dsimp only [bind, Except.bind]
  cases kind with
  | single pattern captures =>
      dsimp only
      rw [hcandidates]
      exact earliestFrom_eq hids hnone
  | container patterns =>
      dsimp only
      rw [hcandidates]
      exact earliestFrom_eq hids hnone
  | span opener closer captures closerCaptures contentScopes closerLast patterns =>
      have hcloser : firstAmong [.closer closer] (.between front rest) =
          (closer.first? (.between front rest)).map .closer := firstAmong_singleton ..
      cases closerLast with
      | false =>
          dsimp only
          rw [Pattern.firstFrom_width, hcandidates, ← List.singleton_append, firstAmong_append,
            hcloser]
          refine earliestFrom_eq hids fun found hfound => ?_
          rw [← hcloser] at hfound
          exact firstAmong_start hfound
      | true =>
          dsimp only
          rw [hcandidates, firstAmong_append, hcloser]
          dsimp only
          rw [earliestFrom_eq hids hnone, Pattern.firstFrom_width]
          rfl

end TokenConcord.Grammar
