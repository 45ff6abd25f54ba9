import Mathlib.Data.List.Nodup
import TokenConcord.Grammar.Compile
import TokenConcord.Proofs.Grammar.WellFormed

/-!
# Places of rules

Where an artifact states its rules, and all of these places in the order in which the rules are
compiled: the artifact as a whole, the repository, and then the rules written inside others. No
place comes twice.
-/

namespace TokenConcord

/-! ## Rules inside rules -/

/-- The patterns of a rule that are tried inside it. A rule that matches a pattern or stands for
another rule has none, whatever it lists. -/
def RuleSource.tried (source : RuleSource) : List RuleSource :=
  match source.matchPattern, source.beginPattern, source.includeTarget with
  | none, some _, _ | none, none, none => source.patterns
  | _, _, _ => []

theorem RuleSource.sizeOf_tried_lt (source : RuleSource) : sizeOf source.tried < sizeOf source := by
  obtain ⟨name, contentName, matchPattern, beginPattern, endPattern, captures, beginCaptures,
    endCaptures, patterns, includeTarget, applyEndPatternLast⟩ := source
  unfold tried
  split
  · simp only [RuleSource.mk.sizeOf_spec]
    omega
  · simp only [RuleSource.mk.sizeOf_spec]
    omega
  · simp

/-- Induction over patterns and, for each of them, over what is tried inside it. -/
theorem RuleSource.tried_induction {motive : List RuleSource → Prop} (nil : motive [])
    (cons : ∀ source sources, motive source.tried → motive sources → motive (source :: sources)) :
    ∀ sources, motive sources
  | [] => nil
  | source :: sources =>
      cons source sources (tried_induction nil cons source.tried)
        (tried_induction nil cons sources)
  termination_by sources => sizeOf sources
  decreasing_by
    · have := source.sizeOf_tried_lt
      simp only [List.cons.sizeOf_spec]
      omega
    · simp

/-! ## Places -/

/-- Where an artifact states a rule. The artifact as a whole is a rule that groups its top-level
patterns. -/
inductive Place where
  | whole
  /-- An entry of the repository. -/
  | named (index : Nat)
  /-- A pattern of the rule at another place. -/
  | inside (place : Place) (index : Nat)
  deriving DecidableEq

namespace Place

/-- The number of rules that a place lies in. -/
def depth : Place → Nat
  | whole | named _ => 0
  | inside place _ => place.depth + 1

/-- The place is another one or lies inside it. -/
inductive Within (outer : Place) : Place → Prop
  | self : Within outer outer
  | inside {place : Place} (index : Nat) : Within outer place → Within outer (place.inside index)

namespace Within

variable {outer other place : Place} {index : Nat}

theorem depth_le (h : Within outer place) : outer.depth ≤ place.depth := by
  induction h with
  | self => exact Nat.le_refl _
  | inside index _ ih => exact Nat.le_succ_of_le ih

theorem of_inside (h : Within (outer.inside index) place) : Within outer place := by
  induction h with
  | self => exact .inside index .self
  | inside index _ ih => exact .inside index ih

/-- A place lies in one place of each depth. -/
theorem eq_of_depth (h : Within outer place) (hother : Within other place)
    (hdepth : outer.depth = other.depth) : outer = other := by
  induction h with
  | self =>
      cases hother with
      | self => rfl
      | inside index hother =>
          have := hother.depth_le
          rw [depth] at hdepth
          omega
  | inside index h ih =>
      cases hother with
      | self =>
          have := h.depth_le
          rw [depth] at hdepth
          omega
      | inside _ hother => exact ih hother

end Within

/-! ## Rules among patterns -/

/-- Places of the rules among the patterns of a rule from number `index` on, each behind those of
the rules inside it. A pattern that is nothing but an include is no rule. -/
def ofPatterns (place : Place) (index : Nat) : List RuleSource → List Place
  | [] => []
  | source :: sources =>
      match Grammar.pureInclude? source with
      | some _ => place.ofPatterns (index + 1) sources
      | none =>
          (place.inside index).ofPatterns 0 source.tried ++
            place.inside index :: place.ofPatterns (index + 1) sources
  termination_by sources => sizeOf sources
  decreasing_by
    · simp
    · have := source.sizeOf_tried_lt
      simp only [List.cons.sizeOf_spec]
      omega
    · simp

variable {place : Place} {source : RuleSource} {sources : List RuleSource} {index : Nat}

theorem ofPatterns_include {target : String} (hpure : Grammar.pureInclude? source = some target) :
    place.ofPatterns index (source :: sources) = place.ofPatterns (index + 1) sources := by
  rw [ofPatterns, hpure]

theorem ofPatterns_rule (hpure : Grammar.pureInclude? source = none) :
    place.ofPatterns index (source :: sources) = (place.inside index).ofPatterns 0 source.tried ++
      place.inside index :: place.ofPatterns (index + 1) sources := by
  rw [ofPatterns, hpure]

/-- The places lie inside patterns from that number on. -/
theorem within_of_mem_ofPatterns {other : Place} (h : other ∈ place.ofPatterns index sources) :
    ∃ number ≥ index, Within (place.inside number) other := by
  induction sources using RuleSource.tried_induction generalizing place index with
  | nil =>
      rw [ofPatterns] at h
      cases h
  | cons source sources ihinner ih =>
      cases hpure : Grammar.pureInclude? source with
      | some target =>
          rw [ofPatterns_include hpure] at h
          obtain ⟨number, hnumber, hwithin⟩ := ih h
          exact ⟨number, Nat.le_of_succ_le hnumber, hwithin⟩
      | none =>
          rw [ofPatterns_rule hpure, List.mem_append, List.mem_cons] at h
          rcases h with h | rfl | h
          · obtain ⟨_, _, hwithin⟩ := ihinner h
            exact ⟨index, Nat.le_refl _, hwithin.of_inside⟩
          · exact ⟨index, Nat.le_refl _, .self⟩
          · obtain ⟨number, hnumber, hwithin⟩ := ih h
            exact ⟨number, Nat.le_of_succ_le hnumber, hwithin⟩

theorem ofPatterns_nodup : (place.ofPatterns index sources).Nodup := by
  induction sources using RuleSource.tried_induction generalizing place index with
  | nil =>
      rw [ofPatterns]
      exact List.nodup_nil
  | cons source sources ihinner ih =>
      cases hpure : Grammar.pureInclude? source with
      | some target =>
          rw [ofPatterns_include hpure]
          exact ih
      | none =>
          -- What follows lies in patterns with greater numbers, whatever lies inside this one.
          have hlater : ∀ other ∈ place.ofPatterns (index + 1) sources,
              ¬ Within (place.inside index) other := by
            intro other hmem hwithin
            obtain ⟨number, hnumber, hother⟩ := within_of_mem_ofPatterns hmem
            cases hwithin.eq_of_depth hother rfl
            omega
          rw [ofPatterns_rule hpure, List.nodup_append, List.nodup_cons]
          refine ⟨ihinner, ⟨fun hmem => hlater _ hmem .self, ih⟩, ?_⟩
          intro inner hinner other hother heq
          obtain ⟨_, _, hwithin⟩ := within_of_mem_ofPatterns hinner
          rcases List.mem_cons.mp hother with rfl | hother
          · have := hwithin.depth_le
            rw [heq, depth] at this
            omega
          · rw [heq] at hwithin
            exact hlater other hother hwithin.of_inside

/-- Each pattern that is a rule has its place among them. -/
theorem inside_mem_ofPatterns {number : Nat} (hsource : sources[number]? = some source)
    (hpure : Grammar.pureInclude? source = none) :
    place.inside (index + number) ∈ place.ofPatterns index sources := by
  induction sources generalizing index number with
  | nil => cases hsource
  | cons first sources ih =>
      have hlater : ∀ {number}, sources[number]? = some source →
          place.inside (index + (number + 1)) ∈ place.ofPatterns (index + 1) sources := by
        intro number hsource
        rw [← Nat.add_assoc, Nat.add_right_comm]
        exact ih hsource
      cases hfirst : Grammar.pureInclude? first with
      | some target =>
          rw [ofPatterns_include hfirst]
          cases number with
          | zero =>
              cases hsource
              cases hpure.symm.trans hfirst
          | succ number => exact hlater hsource
      | none =>
          rw [ofPatterns_rule hfirst]
          refine List.mem_append_right _ ?_
          cases number with
          | zero => exact List.mem_cons_self
          | succ number => exact List.mem_cons_of_mem _ (hlater hsource)

end Place

/-! ## Rules of an artifact -/

namespace Artifact

variable {artifact : Artifact} {place : Place} {source : RuleSource}

/-- The rule that an artifact states at a place. -/
def rule? (artifact : Artifact) : Place → Option RuleSource
  | .whole => some { patterns := artifact.patterns }
  | .named index => (artifact.repository[index]?).map (·.2)
  | .inside place index => do
      let outer ← artifact.rule? place
      let source ← outer.tried[index]?
      if (Grammar.pureInclude? source).isNone then some source else none

theorem rule?_named {index : Nat} {entry : String × RuleSource}
    (h : artifact.repository[index]? = some entry) :
    artifact.rule? (.named index) = some entry.2 := by
  rw [rule?, h]
  rfl

theorem rule?_inside_iff {index : Nat} : artifact.rule? (place.inside index) = some source ↔
    ∃ outer, artifact.rule? place = some outer ∧ outer.tried[index]? = some source ∧
      Grammar.pureInclude? source = none := by
  rw [rule?]
  simp only [Option.bind_eq_bind, Option.bind_eq_some_iff, Option.ite_none_right_eq_some,
    Option.isNone_iff_eq_none, Option.some.injEq]
  constructor
  · rintro ⟨outer, houter, inner, hinner, hpure, rfl⟩
    exact ⟨outer, houter, hinner, hpure⟩
  · exact fun ⟨outer, houter, hsource, hpure⟩ => ⟨outer, houter, source, hsource, hpure, rfl⟩

/-- The artifact lists these patterns at a place, from number `index` on. -/
def Lists (artifact : Artifact) (place : Place) (index : Nat) (sources : List RuleSource) : Prop :=
  ∃ outer, artifact.rule? place = some outer ∧ outer.tried.drop index = sources

namespace Lists

variable {index : Nat} {sources : List RuleSource}

theorem of_rule (h : artifact.rule? place = some source) : artifact.Lists place 0 source.tried :=
  ⟨source, h, rfl⟩

theorem head (h : artifact.Lists place index (source :: sources))
    (hpure : Grammar.pureInclude? source = none) :
    artifact.rule? (place.inside index) = some source := by
  obtain ⟨outer, houter, hdrop⟩ := h
  refine rule?_inside_iff.mpr ⟨outer, houter, ?_, hpure⟩
  rw [← Nat.add_zero index, ← List.getElem?_drop, hdrop]
  rfl

theorem tail (h : artifact.Lists place index (source :: sources)) :
    artifact.Lists place (index + 1) sources := by
  obtain ⟨outer, houter, hdrop⟩ := h
  exact ⟨outer, houter, by rw [← List.drop_drop, hdrop]; rfl⟩

/-- The places of rules among patterns include those of all rules inside them. -/
theorem ofPatterns_closed (h : artifact.Lists place index sources) {other : Place}
    (hmem : other ∈ place.ofPatterns index sources) {inner : RuleSource}
    (hinner : artifact.rule? other = some inner) :
    other.ofPatterns 0 inner.tried ⊆ place.ofPatterns index sources := by
  induction sources using RuleSource.tried_induction generalizing place index with
  | nil =>
      rw [Place.ofPatterns] at hmem
      cases hmem
  | cons source sources ihinner ih =>
      cases hpure : Grammar.pureInclude? source with
      | some target =>
          rw [Place.ofPatterns_include hpure] at hmem ⊢
          exact ih h.tail hmem
      | none =>
          have hsource := h.head hpure
          rw [Place.ofPatterns_rule hpure, List.mem_append, List.mem_cons] at hmem
          rw [Place.ofPatterns_rule hpure]
          rcases hmem with hmem | rfl | hmem
          · exact List.subset_append_of_subset_left _ (ihinner (of_rule hsource) hmem)
          · cases hsource.symm.trans hinner
            exact List.subset_append_left _ _
          · exact List.subset_append_of_subset_right _
              (List.subset_cons_of_subset _ (ih h.tail hmem))

end Lists

/-! ## All places -/

/-- Places of the rules inside entries of a repository, which are numbered from `index` on. -/
def innerPlaces (index : Nat) (entries : List (String × RuleSource)) : List Place :=
  (entries.zipIdx index).flatMap fun (entry, number) =>
    (Place.named number).ofPatterns 0 entry.2.tried

/-- Places of all rules of an artifact, in the order in which they are compiled. -/
def places (artifact : Artifact) : List Place :=
  .whole :: (List.range artifact.repository.length).map .named ++
    innerPlaces 0 artifact.repository ++ Place.whole.ofPatterns 0 artifact.patterns

variable {index : Nat} {entries : List (String × RuleSource)}

theorem innerPlaces_cons {entry : String × RuleSource} :
    innerPlaces index (entry :: entries) =
      (Place.named index).ofPatterns 0 entry.2.tried ++ innerPlaces (index + 1) entries := by
  rw [innerPlaces, List.zipIdx_cons, List.flatMap_cons]
  rfl

theorem mem_innerPlaces_iff : place ∈ innerPlaces index entries ↔
    ∃ entry number, (entry, number) ∈ entries.zipIdx index ∧
      place ∈ (Place.named number).ofPatterns 0 entry.2.tried := by
  rw [innerPlaces, List.mem_flatMap]
  exact Prod.exists

theorem within_of_mem_innerPlaces (h : place ∈ innerPlaces index entries) :
    ∃ outer number, Place.Within ((Place.named outer).inside number) place := by
  obtain ⟨_, outer, _, hmem⟩ := mem_innerPlaces_iff.mp h
  obtain ⟨number, _, hwithin⟩ := Place.within_of_mem_ofPatterns hmem
  exact ⟨outer, number, hwithin⟩

theorem innerPlaces_nodup : (innerPlaces index entries).Nodup := by
  have hnumbers : (entries.zipIdx index).Pairwise fun first second => first.2 ≠ second.2 := by
    rw [← List.pairwise_map, List.zipIdx_map_snd]
    exact List.nodup_range'
  refine List.nodup_flatMap.mpr ⟨fun entry _ => Place.ofPatterns_nodup, hnumbers.imp ?_⟩
  intro first second hne place hfirst hsecond
  obtain ⟨_, _, hfirst⟩ := Place.within_of_mem_ofPatterns hfirst
  obtain ⟨_, _, hsecond⟩ := Place.within_of_mem_ofPatterns hsecond
  exact hne (Place.named.inj (hfirst.of_inside.eq_of_depth hsecond.of_inside rfl))

/-- No place comes twice. -/
theorem places_nodup (artifact : Artifact) : artifact.places.Nodup := by
  have hnamed : ((List.range artifact.repository.length).map Place.named).Nodup :=
    List.nodup_range.map fun _ _ => Place.named.inj
  have hwhole : Place.whole ∉ (List.range artifact.repository.length).map Place.named := by
    simp
  -- Rules inside others lie deeper than the whole and the entries of the repository.
  have houter : ∀ place ∈ Place.whole :: (List.range artifact.repository.length).map Place.named,
      place.depth = 0 := by
    simp [Place.depth]
  have hdeeper : ∀ {outer place : Place} {number : Nat},
      Place.Within (outer.inside number) place → place.depth ≠ 0 := by
    intro outer place number hwithin
    exact Nat.ne_of_gt (Nat.lt_of_lt_of_le (Nat.succ_pos _) hwithin.depth_le)
  rw [places, List.nodup_append, List.nodup_append]
  refine ⟨⟨List.nodup_cons.mpr ⟨hwhole, hnamed⟩, innerPlaces_nodup, ?_⟩,
    Place.ofPatterns_nodup, ?_⟩
  · intro first hfirst second hsecond heq
    obtain ⟨_, _, hwithin⟩ := within_of_mem_innerPlaces hsecond
    exact hdeeper hwithin (heq ▸ houter first hfirst)
  · intro first hfirst second hsecond heq
    obtain ⟨_, _, hwithin⟩ := Place.within_of_mem_ofPatterns hsecond
    rcases List.mem_append.mp hfirst with hfirst | hfirst
    · exact hdeeper hwithin (heq ▸ houter first hfirst)
    · obtain ⟨_, _, hother⟩ := within_of_mem_innerPlaces hfirst
      rw [heq] at hother
      cases hother.of_inside.eq_of_depth hwithin.of_inside rfl

/-- The places include those of all rules inside the rule at any of them. -/
theorem places_closed (hmem : place ∈ artifact.places) (h : artifact.rule? place = some source) :
    place.ofPatterns 0 source.tried ⊆ artifact.places := by
  have hentry : ∀ {entry : String × RuleSource} {index : Nat},
      artifact.repository[index]? = some entry →
      artifact.rule? (.named index) = some entry.2 ∧
        (Place.named index).ofPatterns 0 entry.2.tried ⊆ innerPlaces 0 artifact.repository := by
    intro entry index hentry
    refine ⟨rule?_named hentry, fun inner hinner => ?_⟩
    exact mem_innerPlaces_iff.mpr ⟨entry, index, List.mk_mem_zipIdx_iff_getElem?.mpr hentry, hinner⟩
  rw [places, List.mem_append, List.mem_append, List.mem_cons] at hmem
  rw [places]
  rcases hmem with ((rfl | hmem) | hmem) | hmem
  · cases h
    exact List.subset_append_right _ _
  · obtain ⟨index, -, rfl⟩ := List.mem_map.mp hmem
    obtain ⟨entry, hindex, rfl⟩ := Option.map_eq_some_iff.mp h
    exact List.subset_append_of_subset_left _
      (List.subset_append_of_subset_right _ (hentry hindex).2)
  · obtain ⟨entry, index, hindex, hmem⟩ := mem_innerPlaces_iff.mp hmem
    obtain ⟨hrule, hsubset⟩ := hentry (List.mk_mem_zipIdx_iff_getElem?.mp hindex)
    have hinside := (Lists.of_rule hrule).ofPatterns_closed hmem h
    exact List.subset_append_of_subset_left _
      (List.subset_append_of_subset_right _ (List.Subset.trans hinside hsubset))
  · have hwhole : artifact.Lists .whole 0 artifact.patterns := ⟨_, rfl, rfl⟩
    exact List.subset_append_of_subset_right _ (hwhole.ofPatterns_closed hmem h)

/-- Each rule of an artifact has its place among them. -/
theorem mem_places (h : artifact.rule? place = some source) : place ∈ artifact.places := by
  induction place generalizing source with
  | whole => exact List.mem_cons_self
  | named index =>
      obtain ⟨entry, hentry, -⟩ := Option.map_eq_some_iff.mp h
      have hindex := (List.getElem?_eq_some_iff.mp hentry).1
      simp [places, hindex]
  | inside place index ih =>
      -- The rule around it has its place by induction, and with it all rules inside it.
      obtain ⟨outer, houter, hsource, hpure⟩ := rule?_inside_iff.mp h
      have hinside : place.inside (0 + index) ∈ place.ofPatterns 0 outer.tried :=
        Place.inside_mem_ofPatterns hsource hpure
      rw [Nat.zero_add] at hinside
      exact places_closed (ih houter) houter hinside

/-! ## Positions -/

/-- Where the rule at a place goes when the artifact is compiled. -/
def position (artifact : Artifact) (place : Place) : RuleId := artifact.places.idxOf place

theorem position_getElem {id : RuleId} (h : id < artifact.places.length) :
    artifact.position artifact.places[id] = id :=
  artifact.places_nodup.idxOf_getElem id h

theorem getElem?_position (h : artifact.rule? place = some source) :
    artifact.places[artifact.position place]? = some place :=
  List.getElem?_idxOf (mem_places h)

theorem position_whole : artifact.position .whole = Grammar.root := List.idxOf_cons_self

theorem position_named {index : Nat} (h : index < artifact.repository.length) :
    artifact.position (.named index) = 1 + index := by
  have hplace : artifact.places[1 + index]? = some (.named index) := by
    simp [places, Nat.add_comm 1, List.getElem?_append, h]
  obtain ⟨hlt, hget⟩ := List.getElem?_eq_some_iff.mp hplace
  rw [← hget, position_getElem hlt]

/-- The places have consecutive positions. -/
def NumberedFrom (artifact : Artifact) (next : RuleId) (places : List Place) : Prop :=
  places.map artifact.position = List.range' next places.length

theorem numberedFrom_places : artifact.NumberedFrom 0 artifact.places := by
  refine List.ext_getElem (by simp) fun index hindex _ => ?_
  rw [List.getElem_map, position_getElem, List.getElem_range', Nat.zero_add, Nat.one_mul]

variable {next : RuleId} {places later : List Place}

theorem numberedFrom_cons : artifact.NumberedFrom next (place :: places) ↔
    artifact.position place = next ∧ artifact.NumberedFrom (next + 1) places := by
  rw [NumberedFrom, List.map_cons, List.length_cons, List.range'_succ, List.cons.injEq]
  rfl

theorem numberedFrom_append : artifact.NumberedFrom next (places ++ later) ↔
    artifact.NumberedFrom next places ∧ artifact.NumberedFrom (next + places.length) later := by
  rw [NumberedFrom, List.map_append, List.length_append, ← List.range'_append_1]
  constructor
  · exact fun h => List.append_inj h (by rw [List.length_map, List.length_range'])
  · exact fun ⟨hplaces, hlater⟩ => by rw [hplaces, hlater]

end Artifact

end TokenConcord
