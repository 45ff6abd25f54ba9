import TokenConcord.Proofs.Grammar.Sources

/-!
# References of a compiled grammar

Compiling an artifact gives rules that refer to one another only by positions that there are, and
puts a rule that groups others in the first place.
-/

namespace TokenConcord

/-- The rule refers only to positions below a bound. -/
def Rule.RefersBelow (bound : Nat) (rule : Rule) : Prop :=
  ∀ id ∈ rule.patterns, id < bound

namespace Grammar

variable {artifact : Artifact} {place : Place}

/-! ## Bounds -/

theorem StandsFor.lt {target : String} {id : RuleId} (h : StandsFor artifact.names target id) :
    id < artifact.places.length := by
  have hcount : artifact.names.length < artifact.places.length := by
    simp only [Artifact.names, Artifact.places, List.length_append, List.length_cons,
      List.length_map, List.length_range]
    omega
  cases h with
  | self | base => exact Nat.zero_lt_of_lt hcount
  | named hname =>
      have hindex := (List.getElem?_eq_some_iff.mp hname).1
      exact Nat.lt_of_le_of_lt hindex hcount

theorem Targets.lt {sources : List RuleSource} {index : Nat} {ids : List RuleId}
    (h : Targets artifact place index sources ids) (hlists : artifact.Lists place index sources) :
    ∀ id ∈ ids, id < artifact.places.length := by
  induction sources generalizing index ids with
  | nil =>
      cases h
      exact fun id hmem => absurd hmem List.not_mem_nil
  | cons source sources ih =>
      unfold Targets at h
      rw [List.zipIdx_cons] at h
      cases h with
      | cons hleads hlater =>
          refine List.forall_mem_cons.mpr ⟨?_, ih hlater hlists.tail⟩
          cases hleads with
          | reference _ hstands => exact hstands.lt
          | rule hpure =>
              have hposition := Artifact.getElem?_position (hlists.head hpure)
              exact (List.getElem?_eq_some_iff.mp hposition).1

theorem Makes.refersBelow {source : RuleSource} {rule : Rule} (h : Makes artifact place source rule)
    (hsource : artifact.rule? place = some source) :
    rule.RefersBelow artifact.places.length := by
  obtain ⟨location, scopes, kind⟩ := rule
  have hlists := Artifact.Lists.of_rule hsource
  intro id hmem
  have hkind := h.kind
  cases hkind with
  | single => cases hmem
  | redirect _ _ _ hstands =>
      cases List.mem_singleton.mp hmem
      exact hstands.lt
  | span hmatch hbegin _ _ _ _ _ htargets =>
      rw [RuleSource.tried, hmatch, hbegin] at hlists
      exact htargets.lt hlists id hmem
  | group hmatch hbegin hinclude htargets =>
      rw [RuleSource.tried, hmatch, hbegin, hinclude] at hlists
      exact htargets.lt hlists id hmem

/-! ## Closed grammars -/

/-- Every reference is to a rule, and the root groups other rules. -/
structure Closed (grammar : Grammar) : Prop where
  refers : ∀ rule ∈ grammar.rules, rule.RefersBelow grammar.rules.length
  root : ∃ location scopes patterns,
    grammar.rules[root]? = some ⟨location, scopes, .container patterns⟩

theorem compile_closed {artifact : Artifact} {grammar : Grammar}
    (h : compile artifact = .ok grammar) : grammar.Closed := by
  have hmakes := compile_makes h
  obtain ⟨ids, hroot, -⟩ := exists_root_of_compile h
  refine ⟨fun rule hmem => ?_, "grammar", [], ids, hroot⟩
  obtain ⟨id, hid, rfl⟩ := List.getElem_of_mem hmem
  obtain ⟨source, hsource, hrule⟩ := hmakes.get (hmakes.length_eq.symm ▸ hid) hid
  exact hmakes.length_eq ▸ hrule.refersBelow hsource

end Grammar

end TokenConcord
