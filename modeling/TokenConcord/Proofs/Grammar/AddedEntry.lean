import TokenConcord.Grammar.Bundled
import TokenConcord.Proofs.Grammar.Correspondence
import TokenConcord.Proofs.Grammar.Sources

/-!
# A further entry of the repository

A rule that nothing refers to may be added to the repository: it moves other rules to other
positions, but each of them does what it did, and lines have the same tokens. What tells the rules
of both grammars apart is where the artifacts state them.
-/

namespace TokenConcord

/-- The artifact with a further entry of the repository behind the first `index` ones. -/
def Artifact.addEntry (artifact : Artifact) (index : Nat) (entry : String × RuleSource) :
    Artifact :=
  { artifact with repository := artifact.repository.insertIdx index entry }

/-! ## Places -/

/-- Where an entry is numbered once there is a further one behind the first `index` ones. -/
def shiftFrom (index number : Nat) : Nat := if number < index then number else number + 1

/-- Where a rule is stated once the repository has a further entry. -/
def Place.shift (index : Nat) : Place → Place
  | .whole => .whole
  | .named number => .named (shiftFrom index number)
  | .inside place number => (place.shift index).inside number

theorem shiftFrom_inj {index number other : Nat}
    (h : shiftFrom index number = shiftFrom index other) : number = other := by
  unfold shiftFrom at h
  split at h <;> split at h <;> omega

theorem Place.shift_inj {index : Nat} {place other : Place}
    (h : place.shift index = other.shift index) : place = other := by
  induction place generalizing other with
  | whole => cases other <;> cases h; rfl
  | named number =>
      cases other with
      | whole => cases h
      | named other => rw [shiftFrom_inj (Place.named.inj h)]
      | inside other number => cases h
  | inside place number ih =>
      cases other with
      | whole => cases h
      | named other => cases h
      | inside other number' =>
          obtain ⟨hplace, rfl⟩ := Place.inside.inj h
          rw [ih hplace]

theorem getElem?_insertIdx_shiftFrom {α : Type} (entries : List α) (index number : Nat)
    (entry : α) : (entries.insertIdx index entry)[shiftFrom index number]? = entries[number]? := by
  unfold shiftFrom
  split
  next h => exact List.getElem?_insertIdx_of_lt h
  next h => rw [List.getElem?_insertIdx_of_gt (by omega), Nat.add_sub_cancel]

namespace Artifact

variable {artifact : Artifact} {place other : Place} {source : RuleSource}

theorem getElem?_names_shiftFrom (index : Nat) (entry : String × RuleSource) (number : Nat) :
    (artifact.addEntry index entry).names[shiftFrom index number]? = artifact.names[number]? := by
  rw [names, names, List.getElem?_map, List.getElem?_map, addEntry, getElem?_insertIdx_shiftFrom]

/-- Each rule is stated where it was, but for the number of its entry. -/
theorem rule?_shift (index : Nat) (entry : String × RuleSource) (place : Place) :
    (artifact.addEntry index entry).rule? (place.shift index) = artifact.rule? place := by
  induction place with
  | whole => rfl
  | named number => rw [Place.shift, rule?, rule?, addEntry, getElem?_insertIdx_shiftFrom]
  | inside place number ih => rw [Place.shift, rule?, rule?, ih]

theorem location_shift (index : Nat) (entry : String × RuleSource) (place : Place) :
    (artifact.addEntry index entry).location (place.shift index) = artifact.location place := by
  induction place with
  | whole => rfl
  | named number =>
      rw [Place.shift, location, location, List.getD_eq_getElem?_getD, List.getD_eq_getElem?_getD,
        getElem?_names_shiftFrom]
  | inside place number ih => rw [Place.shift, location, location, ih]

/-- Rules in the same position are stated at the same place. -/
theorem position_inj {source' : RuleSource} (h : artifact.rule? place = some source)
    (hother : artifact.rule? other = some source')
    (hposition : artifact.position place = artifact.position other) : place = other := by
  have hplace := getElem?_position h
  rw [hposition, getElem?_position hother] at hplace
  exact (Option.some.inj hplace).symm

end Artifact

namespace Grammar

variable {artifact : Artifact} {index : Nat} {entry : String × RuleSource} {place : Place}
  {source : RuleSource}

/-- The positions of one rule, without the further entry and with it. -/
def SamePlace (artifact : Artifact) (index : Nat) (entry : String × RuleSource)
    (id id' : RuleId) : Prop :=
  ∃ place source, artifact.rule? place = some source ∧ artifact.position place = id ∧
    (artifact.addEntry index entry).position (place.shift index) = id'

theorem samePlace_unique : Relator.BiUnique (SamePlace artifact index entry) := by
  constructor
  · rintro _ _ _ ⟨place, source, hsource, rfl, rfl⟩ ⟨other, source', hother, rfl, hsame⟩
    rw [← Artifact.rule?_shift index entry] at hsource hother
    rw [Place.shift_inj (Artifact.position_inj hother hsource hsame)]
  · rintro _ _ _ ⟨place, source, hsource, rfl, rfl⟩ ⟨other, source', hother, hsame, rfl⟩
    rw [Artifact.position_inj hother hsource hsame]

theorem samePlace_root : SamePlace artifact index entry root root :=
  ⟨.whole, _, rfl, Artifact.position_whole, Artifact.position_whole⟩

/-! ## References -/

theorem hash_ne_whole (name : String) : "#" ++ name ≠ "$self" ∧ "#" ++ name ≠ "$base" := by
  constructor
  all_goals
    intro h
    have hlist := congrArg String.toList h
    rw [String.toList_append] at hlist
    exact absurd (List.cons.inj hlist).1 (by decide)

theorem standsFor_iff {names : List String} {target : String} {id : RuleId} :
    StandsFor names target id ↔ (target = "$self" ∨ target = "$base") ∧ id = root ∨
      ∃ number name, target = "#" ++ name ∧ names[number]? = some name ∧ id = number + 1 := by
  constructor
  · intro h
    cases h with
    | self => exact Or.inl ⟨Or.inl rfl, rfl⟩
    | base => exact Or.inl ⟨Or.inr rfl, rfl⟩
    | named hname => exact Or.inr ⟨_, _, rfl, hname, rfl⟩
  · rintro (⟨rfl | rfl, rfl⟩ | ⟨number, name, rfl, hname, rfl⟩)
    · exact .self
    · exact .base
    · exact .named hname

/-- An include stands for the same rule, since names do not come twice. -/
theorem StandsFor.samePlace (hnames : (artifact.addEntry index entry).names.Nodup)
    {target : String} {id id' : RuleId} (h : StandsFor artifact.names target id)
    (h' : StandsFor (artifact.addEntry index entry).names target id') :
    SamePlace artifact index entry id id' := by
  rcases standsFor_iff.mp h with ⟨hwhole, rfl⟩ | ⟨number, name, rfl, hname, rfl⟩
  · rcases standsFor_iff.mp h' with ⟨-, rfl⟩ | ⟨_, name, rfl, -, -⟩
    · exact samePlace_root
    · obtain ⟨hself, hbase⟩ := hash_ne_whole name
      exact absurd hwhole (not_or.mpr ⟨hself, hbase⟩)
  · rcases standsFor_iff.mp h' with ⟨hwhole, -⟩ | ⟨number', name', hsame, hname', rfl⟩
    · obtain ⟨hself, hbase⟩ := hash_ne_whole name
      exact absurd hwhole (not_or.mpr ⟨hself, hbase⟩)
    · obtain rfl := (String.append_right_inj _).mp hsame
      rw [← Artifact.getElem?_names_shiftFrom index entry] at hname
      have hlt := (List.getElem?_eq_some_iff.mp hname).1
      obtain rfl := (List.getElem?_inj hlt hnames).mp (hname.trans hname'.symm)
      rw [Artifact.getElem?_names_shiftFrom, Artifact.names, List.getElem?_map,
        Option.map_eq_some_iff] at hname
      obtain ⟨found, hfound, -⟩ := hname
      have hsource := Artifact.rule?_named hfound
      have hshifted := artifact.rule?_shift index entry (.named number)
      rw [hsource, Place.shift] at hshifted
      obtain ⟨other, hother, -⟩ := Option.map_eq_some_iff.mp hshifted
      refine ⟨.named number, found.2, hsource, ?_, ?_⟩
      · rw [Artifact.position_named (List.getElem?_eq_some_iff.mp hfound).1, Nat.add_comm]
      · rw [Place.shift, Artifact.position_named (List.getElem?_eq_some_iff.mp hother).1,
          Nat.add_comm]

theorem LeadsTo.samePlace (hnames : (artifact.addEntry index entry).names.Nodup)
    {number : Nat} {id id' : RuleId}
    (hown : pureInclude? source = none →
      artifact.rule? (place.inside number) = some source)
    (h : LeadsTo artifact.names (artifact.position (place.inside number)) source id)
    (h' : LeadsTo (artifact.addEntry index entry).names
      ((artifact.addEntry index entry).position ((place.shift index).inside number)) source id') :
    SamePlace artifact index entry id id' := by
  cases h with
  | reference hpure hstands =>
      cases h' with
      | reference hpure' hstands' =>
          obtain rfl := Option.some.inj (hpure.symm.trans hpure')
          exact hstands.samePlace hnames hstands'
      | rule hpure' => cases hpure.symm.trans hpure'
  | rule hpure =>
      cases h' with
      | reference hpure' hstands' => cases hpure.symm.trans hpure'
      | rule => exact ⟨place.inside number, source, hown hpure, rfl, rfl⟩

/-- The patterns of a rule lead to the same rules. -/
theorem Targets.samePlace (hnames : (artifact.addEntry index entry).names.Nodup)
    {sources : List RuleSource} {number : Nat} {ids ids' : List RuleId}
    (hlists : artifact.Lists place number sources) (h : Targets artifact place number sources ids)
    (h' : Targets (artifact.addEntry index entry) (place.shift index) number sources ids') :
    List.Forall₂ (SamePlace artifact index entry) ids ids' := by
  induction sources generalizing number ids ids' with
  | nil =>
      cases h
      cases h'
      exact .nil
  | cons source sources ih =>
      unfold Targets at h h'
      rw [List.zipIdx_cons] at h h'
      cases h with
      | cons hleads hlater =>
          cases h' with
          | cons hleads' hlater' =>
              exact .cons (hleads.samePlace hnames hlists.head hleads')
                (ih hlists.tail hlater hlater')

/-! ## Rules -/

theorem parse_unique {pattern pattern' : String} {parsed parsed' : Pattern}
    (hsame : some pattern = some pattern') (h : Pattern.parse pattern.toList = .ok parsed)
    (h' : Pattern.parse pattern'.toList = .ok parsed') : parsed = parsed' := by
  cases hsame
  exact Except.ok.inj (h.symm.trans h')

/-- What is stated at a place does the same, with the further entry and without it. -/
theorem Becomes.sameKind (hnames : (artifact.addEntry index entry).names.Nodup)
    (hsource : artifact.rule? place = some source) {kind kind' : RuleKind}
    (h : Becomes artifact place source kind)
    (h' : Becomes (artifact.addEntry index entry) (place.shift index) source kind') :
    SameKind (SamePlace artifact index entry) kind kind' := by
  have hlists := Artifact.Lists.of_rule hsource
  have hlocation := artifact.location_shift index entry place
  cases h with
  | single hmatch hparse hcaptures =>
      cases h' with
      | single hmatch' hparse' hcaptures' =>
          obtain rfl := parse_unique (hmatch.symm.trans hmatch') hparse hparse'
          rw [hlocation, hcaptures] at hcaptures'
          cases hcaptures'
          exact .single _ _
      | span hnone | redirect hnone | group hnone => cases hmatch.symm.trans hnone
  | span hmatch hbegin hend hopener hcloser hbegins hends htargets =>
      cases h' with
      | single hmatch' => cases hmatch.symm.trans hmatch'
      | span _ hbegin' hend' hopener' hcloser' hbegins' hends' htargets' =>
          obtain rfl := parse_unique (hbegin.symm.trans hbegin') hopener hopener'
          obtain rfl := parse_unique (hend.symm.trans hend') hcloser hcloser'
          rw [hlocation, hbegins] at hbegins'
          rw [hlocation, hends] at hends'
          cases hbegins'
          cases hends'
          rw [RuleSource.tried, hmatch, hbegin] at hlists
          exact .span _ _ _ _ _ _ (htargets.samePlace hnames hlists htargets')
      | redirect _ hnone | group _ hnone => cases hbegin.symm.trans hnone
  | redirect hmatch hbegin hinclude hstands =>
      cases h' with
      | single hmatch' => cases hmatch.symm.trans hmatch'
      | span _ hbegin' => cases hbegin.symm.trans hbegin'
      | redirect _ _ hinclude' hstands' =>
          obtain rfl := Option.some.inj (hinclude.symm.trans hinclude')
          exact .container (.cons (hstands.samePlace hnames hstands') .nil)
      | group _ _ hnone => cases hinclude.symm.trans hnone
  | group hmatch hbegin hinclude htargets =>
      cases h' with
      | single hmatch' => cases hmatch.symm.trans hmatch'
      | span _ hbegin' => cases hbegin.symm.trans hbegin'
      | redirect _ _ hinclude' => cases hinclude.symm.trans hinclude'
      | group _ _ _ htargets' =>
          rw [RuleSource.tried, hmatch, hbegin, hinclude] at hlists
          exact .container (htargets.samePlace hnames hlists htargets')

theorem scopeName_of_compile {grammar : Grammar} (h : compile artifact = .ok grammar) :
    grammar.scopeName = artifact.scopeName := by
  unfold compile at h
  simp only [Outcome.bind_ok_iff, Outcome.pure_ok_iff] at h
  obtain ⟨_, -, _, -, rfl⟩ := h
  rfl

/-- Rules stated at the same place correspond. -/
theorem corresponds_addEntry {grammar larger : Grammar} (h : compile artifact = .ok grammar)
    (hlarger : compile (artifact.addEntry index entry) = .ok larger)
    (hnames : (artifact.addEntry index entry).names.Nodup) :
    Corresponds (SamePlace artifact index entry) grammar larger where
  scopeName := by
    rw [scopeName_of_compile h, scopeName_of_compile hlarger]
    rfl
  root := samePlace_root
  unique := samePlace_unique
  rules := by
    rintro _ _ ⟨place, source, hsource, rfl, rfl⟩
    obtain ⟨rule, hrule, hmakes⟩ := exists_rule_of_compile h hsource
    obtain ⟨partner, hpartner, hmakes'⟩ :=
      exists_rule_of_compile hlarger ((artifact.rule?_shift index entry place).trans hsource)
    refine ⟨rule, partner, hrule, hpartner, hmakes.scopes.trans hmakes'.scopes.symm, ?_⟩
    exact hmakes.kind.sameKind hnames hsource hmakes'.kind

/-- A further entry of the repository has no influence on the tokens of lines, nor on how many rules
they leave open, if the artifact compiles without it: then no include leads to the entry. It may
stand anywhere among the others, and move their rules to other positions. -/
theorem compile_addEntry {grammar larger : Grammar} (h : compile artifact = .ok grammar)
    (hlarger : compile (artifact.addEntry index entry) = .ok larger)
    (hnames : (artifact.addEntry index entry).names.Nodup) (lines : List Text) :
    (grammar.tokenizeAll grammar.initialStack lines).map
        (fun result => (result.tokens, result.stack.depth)) =
      (larger.tokenizeAll larger.initialStack lines).map
        fun result => (result.tokens, result.stack.depth) := by
  have hcorresponds := corresponds_addEntry h hlarger hnames
  exact hcorresponds.tokenizeAll hcorresponds.initialStack lines

/-- A comma, which is stated in the repository. -/
def commas : Artifact :=
  { scopeName := "source", patterns := [Bundled.see "#Comma"],
    repository := [("Comma", Bundled.word "," "comma")] }

/-- An ampersand that nothing includes comes in front of the comma, and moves its rule. -/
theorem compile_addEntry_ampersand :
    ∃ grammar larger, compile commas = .ok grammar ∧
      compile (commas.addEntry 0 ("Ampersand", Bundled.word "&" "ampersand")) = .ok larger ∧
      grammar.rules.map (·.location) = ["grammar", "repository.Comma"] ∧
      larger.rules.map (·.location) = ["grammar", "repository.Ampersand", "repository.Comma"] ∧
      (grammar.tokenizeAll grammar.initialStack [[',', '&'], [',']]).map
          (fun result => (result.tokens, result.stack.depth)) =
        (larger.tokenizeAll larger.initialStack [[',', '&'], [',']]).map
          fun result => (result.tokens, result.stack.depth) := by
  have hlocations : (compile commas).map (·.rules.map (·.location)) =
      .ok ["grammar", "repository.Comma"] := rfl
  have hlocations' : (compile (commas.addEntry 0
      ("Ampersand", Bundled.word "&" "ampersand"))).map (·.rules.map (·.location)) =
      .ok ["grammar", "repository.Ampersand", "repository.Comma"] := rfl
  cases h : compile commas with
  | error fault => rw [h] at hlocations; cases hlocations
  | ok grammar =>
      cases hlarger : compile (commas.addEntry 0 ("Ampersand", Bundled.word "&" "ampersand")) with
      | error fault => rw [hlarger] at hlocations'; cases hlocations'
      | ok larger =>
          rw [h] at hlocations
          rw [hlarger] at hlocations'
          exact ⟨grammar, larger, rfl, rfl, Except.ok.inj hlocations, Except.ok.inj hlocations',
            compile_addEntry h hlarger (by decide) _⟩

end Grammar

end TokenConcord
