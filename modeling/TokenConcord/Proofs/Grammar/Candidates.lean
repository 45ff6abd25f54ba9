import Mathlib.Algebra.BigOperators.Fin
import Mathlib.Algebra.Order.BigOperators.Group.Finset
import TokenConcord.Proofs.Grammar.References
import TokenConcord.Proofs.Pattern.FromOffset

/-!
# Candidates of a rule

Flattening what a rule groups looks up a rule for each position that it works on, and has a bound
for its steps. In a grammar whose references are to rules no look-up fails. The bound suffices
because each step takes a position away, and a container adds its positions only when it is opened
for the first time: what is left to do, together with what the containers not yet opened group,
gets smaller.
-/

namespace TokenConcord.Grammar

/-- The rule at a position. -/
def ruleAt (grammar : Grammar) (id : RuleId) : Except Fault Rule :=
  match grammar.rules[id]? with
  | none => .error (.noRule id)
  | some rule => .ok rule

/-- Work through a list of positions as `flatten` does, with failures: there has to be a rule at
each position, and the steps have to suffice. -/
def flattenFrom (grammar : Grammar) (opened found : List RuleId) :
    Nat → List RuleId → Except Fault (List RuleId)
  | _, [] => .ok found
  | 0, _ :: _ => .error .unfinished
  | steps + 1, id :: work => do
      match (← grammar.ruleAt id).kind with
      | .container patterns =>
          if id ∈ opened then flattenFrom grammar opened found steps work
          else flattenFrom grammar (id :: opened) found steps (patterns ++ work)
      | _ =>
          if id ∈ found then flattenFrom grammar opened found steps work
          else flattenFrom grammar opened (found ++ [id]) steps work

/-- The rules to be tried inside a rule, with failures. -/
def candidatesFrom (grammar : Grammar) (id : RuleId) : Except Fault (List RuleId) := do
  let patterns := (← grammar.ruleAt id).patterns
  let listed := (grammar.rules.flatMap (·.patterns)).length
  grammar.flattenFrom [] [] (patterns.length + listed) patterns

/-- The number of positions that a rule lists. -/
def listedAt (grammar : Grammar) (id : RuleId) : Nat :=
  (((grammar.rules[id]?).map (·.patterns)).getD []).length

/-- The number of positions that rules not yet opened list. -/
def pending (grammar : Grammar) (opened : List RuleId) : Nat :=
  ∑ id ∈ Finset.range grammar.rules.length with id ∉ opened, grammar.listedAt id

variable {grammar : Grammar} {opened found work : List RuleId} {steps : Nat} {id : RuleId}

theorem ruleAt_of_lt (h : id < grammar.rules.length) :
    ∃ rule ∈ grammar.rules, grammar.rules[id]? = some rule ∧ grammar.ruleAt id = .ok rule := by
  have hget : grammar.rules[id]? = some (grammar.rules[id]) := List.getElem?_eq_getElem h
  refine ⟨grammar.rules[id], List.getElem_mem h, hget, ?_⟩
  rw [ruleAt, hget]

theorem pending_nil : grammar.pending [] = (grammar.rules.flatMap (·.patterns)).length := by
  have hsum := Fin.sum_univ_fun_getElem grammar.rules (·.patterns.length)
  rw [List.length_flatMap, ← hsum]
  simp [pending, Finset.sum_range, listedAt]

theorem pending_cons (h : id < grammar.rules.length) (hopened : id ∉ opened) :
    grammar.listedAt id + grammar.pending (id :: opened) = grammar.pending opened := by
  have hmem : id ∈ {other ∈ Finset.range grammar.rules.length | other ∉ opened} := by
    simpa using ⟨h, hopened⟩
  rw [pending, pending, ← Finset.add_sum_erase _ _ hmem]
  congr 2
  ext other
  simp only [Finset.mem_filter, Finset.mem_erase, List.mem_cons]
  tauto

theorem flatten_nil (grammar : Grammar) (opened found : List RuleId) (steps : Nat) :
    grammar.flatten opened found steps [] = found := by
  cases steps <;> rfl

theorem pending_grouped {patterns : List RuleId} (h : grammar.grouped? id = some patterns)
    (hopened : id ∉ opened) :
    patterns.length + grammar.pending (id :: opened) = grammar.pending opened := by
  unfold grouped? at h
  split at h
  next hget =>
    cases h
    rw [← pending_cons (List.getElem?_eq_some_iff.mp hget).1 hopened, listedAt, hget]
    rfl
  next => cases h

theorem flattenFrom_eq (hclosed : grammar.Closed) (hwork : ∀ id ∈ work, id < grammar.rules.length)
    (hsteps : work.length + grammar.pending opened ≤ steps) :
    grammar.flattenFrom opened found steps work = .ok (grammar.flatten opened found steps work) := by
  induction steps generalizing opened found work with
  | zero =>
      obtain rfl : work = [] := List.length_eq_zero_iff.mp (by omega)
      rfl
  | succ steps ih =>
      cases work with
      | nil => rfl
      | cons id work =>
          obtain ⟨hid, hwork⟩ := List.forall_mem_cons.mp hwork
          obtain ⟨⟨location, scopes, kind⟩, hmem, hget, hrule⟩ := ruleAt_of_lt hid
          rw [List.length_cons] at hsteps
          rw [flattenFrom, hrule, flatten, grouped?, hget]
          cases kind with
          | container patterns =>
              dsimp only [bind, Except.bind]
              split
              · exact ih hwork (by omega)
              -- What a rule lists moves from the pending positions into the work, so the steps
              -- still suffice.
              next hopened =>
                have hpatterns : ∀ other ∈ patterns, other < grammar.rules.length :=
                  hclosed.refers _ hmem
                have hlisted : grammar.listedAt id = patterns.length := by
                  rw [listedAt, hget]
                  rfl
                have hpending := pending_cons hid hopened
                refine ih (List.forall_mem_append.mpr ⟨hpatterns, hwork⟩) ?_
                rw [List.length_append]
                omega
          | single pattern captures =>
              dsimp only [bind, Except.bind]
              split <;> exact ih hwork (by omega)
          | span =>
              dsimp only [bind, Except.bind]
              split <;> exact ih hwork (by omega)

theorem candidatesFrom_eq (hclosed : grammar.Closed) (h : id < grammar.rules.length) :
    grammar.candidatesFrom id = .ok (grammar.candidates id) := by
  obtain ⟨rule, hmem, hget, hrule⟩ := ruleAt_of_lt h
  rw [candidatesFrom, hrule, candidates, hget]
  exact flattenFrom_eq hclosed (hclosed.refers rule hmem) (by rw [pending_nil])

theorem lt_of_grouped (hclosed : grammar.Closed) {patterns : List RuleId}
    (h : grammar.grouped? id = some patterns) : ∀ other ∈ patterns, other < grammar.rules.length := by
  unfold grouped? at h
  split at h
  next location scopes _ hget =>
    cases h
    exact hclosed.refers _ (List.mem_of_getElem? hget)
  next => cases h

theorem lt_of_mem_flatten (hclosed : grammar.Closed)
    (hwork : ∀ id ∈ work, id < grammar.rules.length)
    (hfound : ∀ id ∈ found, id < grammar.rules.length) :
    ∀ id ∈ grammar.flatten opened found steps work, id < grammar.rules.length := by
  induction steps generalizing opened found work with
  | zero => exact hfound
  | succ steps ih =>
      cases work with
      | nil => exact hfound
      | cons id work =>
          obtain ⟨hid, hwork⟩ := List.forall_mem_cons.mp hwork
          rw [flatten]
          split
          next patterns hgrouped =>
            split
            · exact ih hwork hfound
            · have hpatterns := lt_of_grouped hclosed hgrouped
              exact ih (List.forall_mem_append.mpr ⟨hpatterns, hwork⟩) hfound
          next =>
            split
            · exact ih hwork hfound
            · refine ih hwork (List.forall_mem_append.mpr ⟨hfound, ?_⟩)
              exact List.forall_mem_singleton.mpr hid

/-- There is a rule at each position that is tried inside a rule. -/
theorem lt_of_mem_candidates (hclosed : grammar.Closed) (h : id < grammar.rules.length) :
    ∀ other ∈ grammar.candidates id, other < grammar.rules.length := by
  obtain ⟨rule, hmem, hget, _⟩ := ruleAt_of_lt h
  rw [candidates, hget]
  exact lt_of_mem_flatten hclosed (hclosed.refers rule hmem)
    fun other hmem => absurd hmem List.not_mem_nil

end TokenConcord.Grammar
