import Mathlib.Data.List.Forall2
import TokenConcord.Proofs.Grammar.Places
import TokenConcord.Proofs.Outcome

/-!
# What rules become

Each rule of a compiled artifact is made of a rule that the artifact states, and what it lists are
the positions of the rules that its patterns stand for.
-/

namespace TokenConcord

open Outcome

/-- How messages refer to a place. -/
def Artifact.location (artifact : Artifact) : Place → String
  | .whole => "grammar"
  | .named index =>
      let name := artifact.names.getD index ""
      s!"repository.{name}"
  | .inside place index => s!"{artifact.location place}.patterns[{index}]"

theorem Artifact.location_named {artifact : Artifact} {index : Nat} {entry : String × RuleSource}
    (h : artifact.repository[index]? = some entry) :
    artifact.location (.named index) = s!"repository.{entry.1}" := by
  rw [location, names, List.getD_eq_getElem?_getD, List.getElem?_map, h]
  rfl

namespace Grammar

/-! ## Rules and their sources -/

/-- An include of this target leads to this position, where the repository has rules with these
names. -/
inductive StandsFor (names : List String) : String → RuleId → Prop
  | self : StandsFor names "$self" root
  | base : StandsFor names "$base" root
  | named {index : Nat} {name : String} : names[index]? = some name →
      StandsFor names ("#" ++ name) (index + 1)

/-- Where an entry of a list of patterns leads: if it is nothing but an include, to what it
includes, and otherwise to a rule of its own. -/
inductive LeadsTo (names : List String) (own : RuleId) (source : RuleSource) : RuleId → Prop
  | reference {target : String} {id : RuleId} :
      pureInclude? source = some target → StandsFor names target id → LeadsTo names own source id
  | rule : pureInclude? source = none → LeadsTo names own source own

/-- The positions are those to which the patterns of a rule lead, in their order. The patterns are
numbered from `index` on. -/
def Targets (artifact : Artifact) (place : Place) (index : Nat) (sources : List RuleSource)
    (ids : List RuleId) : Prop :=
  List.Forall₂ (fun (source, number) id =>
    LeadsTo artifact.names (artifact.position (place.inside number)) source id)
    (sources.zipIdx index) ids

/-- What the rule at a place becomes when it is compiled. -/
inductive Becomes (artifact : Artifact) (place : Place) (source : RuleSource) : RuleKind → Prop
  | single {pattern : String} {parsed : Pattern} {captures : List CaptureRule} :
      source.matchPattern = some pattern → Pattern.parse pattern.toList = .ok parsed →
      compileCaptures (artifact.location place) source.captures = .ok captures →
      Becomes artifact place source (.single parsed captures)
  | span {opener closer : String} {opening closing : Pattern}
      {openerCaptures closerCaptures : List CaptureRule} {ids : List RuleId} :
      source.matchPattern = none → source.beginPattern = some opener →
      source.endPattern = some closer → Pattern.parse opener.toList = .ok opening →
      Pattern.parse closer.toList = .ok closing →
      compileCaptures (artifact.location place) (source.capturesFor source.beginCaptures) =
        .ok openerCaptures →
      compileCaptures (artifact.location place) (source.capturesFor source.endCaptures) =
        .ok closerCaptures →
      Targets artifact place 0 source.patterns ids →
      Becomes artifact place source (.span opening closing openerCaptures closerCaptures
        (splitScopes source.contentName) source.applyEndPatternLast ids)
  | redirect {target : String} {id : RuleId} :
      source.matchPattern = none → source.beginPattern = none →
      source.includeTarget = some target → StandsFor artifact.names target id →
      Becomes artifact place source (.container [id])
  | group {ids : List RuleId} :
      source.matchPattern = none → source.beginPattern = none → source.includeTarget = none →
      Targets artifact place 0 source.patterns ids → Becomes artifact place source (.container ids)

/-- The rule is what the rule at a place becomes. -/
structure Makes (artifact : Artifact) (place : Place) (source : RuleSource) (rule : Rule) :
    Prop where
  location : rule.location = artifact.location place
  scopes : rule.scopes = splitScopes source.name
  kind : Becomes artifact place source rule.kind

/-- The rule is what some rule becomes that the artifact states at a place. -/
def MadeAt (artifact : Artifact) (place : Place) (rule : Rule) : Prop :=
  ∃ source, artifact.rule? place = some source ∧ Makes artifact place source rule

/-! ## Compiling one rule -/

variable {artifact : Artifact} {place : Place}

theorem parse_of_compilePattern {location pattern : String} {parsed : Pattern}
    (h : compilePattern location pattern = .ok parsed) :
    Pattern.parse pattern.toList = .ok parsed := by
  unfold compilePattern at h
  split at h
  next hparse =>
    cases h
    exact hparse
  next => cases h

theorem resolve_standsFor {names : List String} {location target : String} {id : RuleId}
    (h : resolve names location target = .ok id) : StandsFor names target id := by
  unfold resolve at h
  split at h
  next hwhole =>
    cases h
    rcases hwhole with rfl | rfl
    · exact .self
    · exact .base
  next =>
    split at h
    next name htarget =>
      have heq : target = "#" ++ String.ofList name := by
        rw [← String.toList_inj, String.toList_append, htarget, @String.toList_ofList name]
        rfl
      split at h
      next index hindex =>
        cases h
        obtain ⟨hlt, hname, -⟩ := List.idxOf?_eq_some_iff.mp hindex
        rw [heq]
        exact .named (List.getElem?_eq_some_iff.mpr ⟨hlt, hname⟩)
      next => cases h
    next => cases h

/-- A rule is made of its source once it is known where the patterns tried inside it lead. -/
theorem compileRule_makes {source : RuleSource} {next : RuleId} {rule : Rule} {inner : List Rule}
    (h : compileRule artifact.names (artifact.location place) next source = .ok (rule, inner)) :
    ∃ ids, compilePatterns artifact.names (artifact.location place) 0 next source.tried =
        .ok (ids, inner) ∧
      (Targets artifact place 0 source.tried ids → Makes artifact place source rule) := by
  obtain ⟨name, contentName, matchPattern, beginPattern, endPattern, captures, beginCaptures,
    endCaptures, patterns, includeTarget, applyEndPatternLast⟩ := source
  rw [compileRule] at h
  dsimp only at h
  -- A rule that matches a pattern or stands for another one compiles none of its patterns.
  cases matchPattern with
  | some pattern =>
      simp only [bind_ok_iff, pure_ok_iff] at h
      obtain ⟨_, hpattern, _, hcaptures, heq⟩ := h
      cases heq
      exact ⟨[], by rw [RuleSource.tried, compilePatterns], fun _ =>
        ⟨rfl, rfl, .single rfl (parse_of_compilePattern hpattern) hcaptures⟩⟩
  | none =>
      cases beginPattern with
      | some opener =>
          cases endPattern with
          | none => cases h
          | some closer =>
              simp only [bind_ok_iff, pure_ok_iff] at h
              obtain ⟨_, hend, _, hopener, _, hcloser, _, hbegins, _, hends, ⟨ids, others⟩,
                hcompile, heq⟩ := h
              cases hend
              cases heq
              exact ⟨ids, hcompile, fun htargets => ⟨rfl, rfl,
                .span rfl rfl rfl (parse_of_compilePattern hopener)
                  (parse_of_compilePattern hcloser) hbegins hends htargets⟩⟩
      | none =>
          cases includeTarget with
          | some target =>
              simp only [bind_ok_iff, pure_ok_iff] at h
              obtain ⟨id, hid, heq⟩ := h
              cases heq
              exact ⟨[], by rw [RuleSource.tried, compilePatterns], fun _ =>
                ⟨rfl, rfl, .redirect rfl rfl rfl (resolve_standsFor hid)⟩⟩
          | none =>
              dsimp only at h
              split at h
              · cases h
              · simp only [bind_ok_iff, pure_ok_iff] at h
                obtain ⟨⟨ids, others⟩, hcompile, heq⟩ := h
                cases heq
                exact ⟨ids, hcompile, fun htargets => ⟨rfl, rfl, .group rfl rfl rfl htargets⟩⟩

/-! ## Compiling all rules -/

/-- The patterns at a place lead where the compiled list says, and the rules that they add are made
of the rules among them, if the positions of these are the ones to be taken next. -/
theorem compilePatterns_makes {sources : List RuleSource} {index : Nat} {next : RuleId}
    {ids : List RuleId} {added : List Rule}
    (hcompile : compilePatterns artifact.names (artifact.location place) index next sources =
      .ok (ids, added))
    (hlists : artifact.Lists place index sources)
    (hnumbered : artifact.NumberedFrom next (place.ofPatterns index sources)) :
    Targets artifact place index sources ids ∧
    List.Forall₂ (MadeAt artifact) (place.ofPatterns index sources) added := by
  induction sources using RuleSource.tried_induction generalizing place index next ids added with
  | nil =>
      rw [compilePatterns] at hcompile
      cases hcompile
      rw [Place.ofPatterns]
      exact ⟨.nil, .nil⟩
  | cons source sources ihinner ih =>
      unfold Targets
      rw [List.zipIdx_cons]
      rw [compilePatterns] at hcompile
      dsimp only at hcompile
      cases hpure : pureInclude? source with
      | some target =>
          rw [hpure] at hcompile
          simp only [bind_ok_iff, pure_ok_iff] at hcompile
          obtain ⟨id, hid, ⟨later, others⟩, hlater, heq⟩ := hcompile
          cases heq
          rw [Place.ofPatterns_include hpure] at hnumbered ⊢
          obtain ⟨htargets, hmade⟩ := ih hlater hlists.tail hnumbered
          exact ⟨.cons (.reference hpure (resolve_standsFor hid)) htargets, hmade⟩
      | none =>
          rw [hpure] at hcompile
          simp only [bind_ok_iff, pure_ok_iff] at hcompile
          obtain ⟨⟨rule, inner⟩, hrule, ⟨later, others⟩, hlater, heq⟩ := hcompile
          cases heq
          rw [Place.ofPatterns_rule hpure, Artifact.numberedFrom_append,
            Artifact.numberedFrom_cons] at hnumbered
          -- The rules inside a rule are placed in front of it.
          obtain ⟨hinside, hposition, hbehind⟩ := hnumbered
          have hsource := hlists.head hpure
          change compileRule artifact.names (artifact.location (place.inside index)) next source =
            .ok (rule, inner) at hrule
          obtain ⟨within, hcompile, hmakes⟩ := compileRule_makes hrule
          obtain ⟨hwithin, hinner⟩ := ihinner hcompile (.of_rule hsource) hinside
          rw [hinner.length_eq] at hposition hbehind
          obtain ⟨htargets, hmade⟩ := ih hlater hlists.tail hbehind
          have hleads : LeadsTo artifact.names (artifact.position (place.inside index)) source
              (next + inner.length) := hposition ▸ .rule hpure
          have hmade' := List.Forall₂.cons ⟨source, hsource, hmakes hwithin⟩ hmade
          rw [Place.ofPatterns_rule hpure]
          exact ⟨.cons hleads htargets, List.rel_append hinner hmade'⟩

/-- The same for the entries of a repository, whose own rules are kept apart from those inside
them. -/
theorem compileRepository_makes {entries : List (String × RuleSource)} {index : Nat}
    {next : RuleId} {rules inner : List Rule}
    (hcompile : compileRepository artifact.names next entries = .ok (rules, inner))
    (hentries : artifact.repository.drop index = entries)
    (hnumbered : artifact.NumberedFrom next (Artifact.innerPlaces index entries)) :
    List.Forall₂ (MadeAt artifact)
      ((List.range' index entries.length).map .named) rules ∧
    List.Forall₂ (MadeAt artifact) (Artifact.innerPlaces index entries) inner := by
  induction entries generalizing index next rules inner with
  | nil =>
      cases hcompile
      exact ⟨.nil, .nil⟩
  | cons entry entries ih =>
      obtain ⟨name, source⟩ := entry
      rw [compileRepository] at hcompile
      simp only [bind_ok_iff, pure_ok_iff] at hcompile
      obtain ⟨⟨rule, own⟩, hrule, ⟨later, others⟩, hlater, heq⟩ := hcompile
      cases heq
      have hentry : artifact.repository[index]? = some (name, source) := by
        rw [← Nat.add_zero index, ← List.getElem?_drop, hentries]
        rfl
      have hsource := Artifact.rule?_named hentry
      rw [Artifact.innerPlaces_cons, Artifact.numberedFrom_append] at hnumbered
      obtain ⟨hinside, hbehind⟩ := hnumbered
      rw [← Artifact.location_named hentry] at hrule
      obtain ⟨within, hcompile, hmakes⟩ := compileRule_makes hrule
      obtain ⟨hwithin, hown⟩ := compilePatterns_makes hcompile (.of_rule hsource) hinside
      rw [hown.length_eq] at hbehind
      obtain ⟨hrules, hinner⟩ :=
        ih hlater (by rw [← List.drop_drop, hentries]; rfl) hbehind
      rw [Artifact.innerPlaces_cons, List.length_cons, List.range'_succ, List.map_cons]
      exact ⟨.cons ⟨source, hsource, hmakes hwithin⟩ hrules, List.rel_append hown hinner⟩

/-- The rules of a compiled artifact are made of the rules at its places, in the same order. -/
theorem compile_makes {grammar : Grammar} (h : compile artifact = .ok grammar) :
    List.Forall₂ (MadeAt artifact) artifact.places grammar.rules := by
  unfold compile at h
  simp only [bind_ok_iff, pure_ok_iff] at h
  obtain ⟨⟨rules, inner⟩, hrepository, ⟨ids, added⟩, hpatterns, rfl⟩ := h
  have hlength : artifact.names.length = artifact.repository.length := List.length_map _
  change compileRepository artifact.names (artifact.names.length + 1) artifact.repository =
    .ok (rules, inner) at hrepository
  change compilePatterns artifact.names (artifact.location .whole) 0
    (artifact.names.length + 1 + inner.length) artifact.patterns = .ok (ids, added) at hpatterns
  -- The whole and the names take the first positions, so what is inside the names starts there.
  have hnumbered : artifact.NumberedFrom 0 artifact.places := Artifact.numberedFrom_places
  rw [Artifact.places, Artifact.numberedFrom_append, Artifact.numberedFrom_append] at hnumbered
  obtain ⟨⟨-, hinside⟩, htop⟩ := hnumbered
  rw [List.length_cons, List.length_map, List.length_range, Nat.zero_add, ← hlength] at hinside
  obtain ⟨hrules, hinner⟩ := compileRepository_makes hrepository (List.drop_zero) hinside
  rw [List.length_append, List.length_cons, List.length_map, List.length_range, Nat.zero_add,
    ← hlength, hinner.length_eq] at htop
  obtain ⟨htargets, hadded⟩ := compilePatterns_makes hpatterns ⟨_, rfl, rfl⟩ htop
  rw [Artifact.places, List.range_eq_range']
  refine List.rel_append (List.rel_append (.cons ?_ hrules) hinner) hadded
  exact ⟨_, rfl, rfl, rfl, .group rfl rfl rfl htargets⟩

/-- In its position, each rule of a compiled artifact is what it becomes. -/
theorem exists_rule_of_compile {grammar : Grammar} {source : RuleSource}
    (h : compile artifact = .ok grammar) (hsource : artifact.rule? place = some source) :
    ∃ rule, grammar.rules[artifact.position place]? = some rule ∧
      Makes artifact place source rule := by
  have hmakes := compile_makes h
  obtain ⟨hindex, hplace⟩ := List.getElem?_eq_some_iff.mp (Artifact.getElem?_position hsource)
  have hrule := hmakes.length_eq ▸ hindex
  obtain ⟨other, hother, hmakes⟩ := hmakes.get hindex hrule
  rw [List.get_eq_getElem, hplace] at hother hmakes
  cases hsource.symm.trans hother
  exact ⟨_, List.getElem?_eq_getElem hrule, hmakes⟩

/-- Each position in a compiled artifact is that of one rule. -/
theorem existsUnique_place_of_compile {grammar : Grammar} {id : RuleId}
    (h : compile artifact = .ok grammar) (hid : id < grammar.rules.length) :
    ∃! place, (artifact.rule? place).isSome ∧ artifact.position place = id := by
  have hmakes := compile_makes h
  have hindex : id < artifact.places.length := hmakes.length_eq.symm ▸ hid
  obtain ⟨source, hsource, -⟩ := hmakes.get hindex hid
  refine ⟨artifact.places[id], ⟨Option.isSome_of_eq_some hsource, ?_⟩, ?_⟩
  · exact Artifact.position_getElem hindex
  · rintro place ⟨hplace, rfl⟩
    obtain ⟨other, hother⟩ := Option.isSome_iff_exists.mp hplace
    obtain ⟨_, hget⟩ := List.getElem?_eq_some_iff.mp (Artifact.getElem?_position hother)
    exact hget.symm

/-- The first rule of a compiled artifact groups the top-level patterns. -/
theorem exists_root_of_compile {grammar : Grammar} (h : compile artifact = .ok grammar) :
    ∃ ids, grammar.rules[root]? = some ⟨"grammar", [], .container ids⟩ ∧
      Targets artifact .whole 0 artifact.patterns ids := by
  have hsource : artifact.rule? .whole = some { patterns := artifact.patterns } := rfl
  obtain ⟨⟨location, scopes, kind⟩, hrule, hlocation, hscopes, hkind⟩ :=
    exists_rule_of_compile h hsource
  rw [Artifact.position_whole] at hrule
  cases hlocation
  cases hscopes
  -- The whole has neither a pattern of its own nor an include.
  cases hkind with
  | single hmatch => cases hmatch
  | span _ hbegin => cases hbegin
  | redirect _ _ hinclude => cases hinclude
  | group _ _ _ htargets => exact ⟨_, hrule, htargets⟩

end Grammar

end TokenConcord
