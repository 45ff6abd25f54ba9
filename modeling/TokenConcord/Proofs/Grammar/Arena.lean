import TokenConcord.Proofs.Bundled.Compiled
import TokenConcord.Proofs.Grammar.Ordered
import TokenConcord.Proofs.Grammar.References

/-!
# The rules of a compiled grammar

A compiled grammar has the rules that the artifact states, each in a position of its own.
-/

namespace TokenConcord.Grammar

/-- The rules of an artifact and those of a grammar correspond to one another. -/
structure Arena (artifact : Artifact) (grammar : Grammar) : Prop where
  /-- The first rule is the artifact as a whole and groups the top-level patterns. -/
  root : artifact.position .whole = root ∧
    ∃ ids, grammar.rules[root]? = some ⟨"grammar", [], .container ids⟩ ∧
      Targets artifact .whole 0 artifact.patterns ids
  /-- The rules of the repository follow in their order. -/
  named : ∀ index < artifact.repository.length, artifact.position (.named index) = 1 + index
  /-- If the repository is ordered by name, that is the order of their names. -/
  ordered : artifact.Ordered → ∀ index name, artifact.names[index]? = some name →
    artifact.position (.named index) = 1 + (artifact.names.filter (· < name)).length
  /-- In its position, each rule is what it becomes. -/
  made : ∀ place source, artifact.rule? place = some source →
    ∃ rule, grammar.rules[artifact.position place]? = some rule ∧ Makes artifact place source rule
  /-- Each position is that of one rule. -/
  unique : ∀ id < grammar.rules.length,
    ∃! place, (artifact.rule? place).isSome ∧ artifact.position place = id
  /-- Only positions that there are are referred to. -/
  refers : ∀ rule ∈ grammar.rules, rule.RefersBelow grammar.rules.length

/-- The rules of a compiled artifact are those that the artifact states, each in a position of its
own and each listing the positions to which its patterns lead. -/
theorem compile_arena {artifact : Artifact} {grammar : Grammar}
    (h : compile artifact = .ok grammar) : Arena artifact grammar where
  root := ⟨Artifact.position_whole, exists_root_of_compile h⟩
  named index := Artifact.position_named
  ordered hordered index name hname := by
    have hindex : index < artifact.repository.length := by
      rw [← List.length_map (·.1)]
      exact (List.getElem?_eq_some_iff.mp hname).1
    rw [hordered.length_smaller hname, Artifact.position_named hindex]
  made place source := exists_rule_of_compile h
  unique id := existsUnique_place_of_compile h
  refers := (compile_closed h).refers

/-- The pattern for doubled quotes, which the rule for texts lists. -/
theorem compile_arena_quotes : ∃ rule,
    Bundled.compiled.rules[Bundled.artifact.position ((Place.named 19).inside 0)]? = some rule ∧
      rule.location = "repository.String.patterns[0]" := by
  have hsource : Bundled.artifact.rule? ((Place.named 19).inside 0) =
      some (Bundled.word "\"\"" "constant.character.escape.quote.powerquery") := rfl
  obtain ⟨rule, hrule, hmakes⟩ := (compile_arena Bundled.grammar_eq).made _ _ hsource
  exact ⟨rule, hrule, hmakes.location⟩

end TokenConcord.Grammar
