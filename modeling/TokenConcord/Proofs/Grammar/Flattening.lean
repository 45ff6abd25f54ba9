import TokenConcord.Proofs.Grammar.Candidates
import TokenConcord.Grammar.Bundled

/-!
# What flattening lists

The candidates of a rule are found by walking through what it groups. The containers opened so far
are shared along the walk, so that each is opened once, also where containers include one another.
A walk that starts with nothing opened lists each rule reached through containers, and each once.
Where no container leads back to itself, the list of patterns can be written out with all containers
replaced, and the candidates are that list with the first occurrence of each rule kept.
-/

namespace TokenConcord.Grammar

/-! ## Rules behind containers -/

/-- The positions that a rule lists itself. -/
def patternsAt (grammar : Grammar) (id : RuleId) : List RuleId :=
  ((grammar.rules[id]?).map (·.patterns)).getD []

/-- There is a rule at the position, and it does not just group other rules. -/
def IsTried (grammar : Grammar) (id : RuleId) : Prop :=
  ∃ rule, grammar.rules[id]? = some rule ∧ ∀ patterns, rule.kind ≠ .container patterns

/-- The positions in a list, and those that a container among them leads to. -/
inductive Reaches (grammar : Grammar) (ids : List RuleId) : RuleId → Prop
  | listed {id : RuleId} : id ∈ ids → Reaches grammar ids id
  | grouped {container id : RuleId} {patterns : List RuleId} : Reaches grammar ids container →
      grammar.grouped? container = some patterns → id ∈ patterns → Reaches grammar ids id

/-- A list of positions written out: each container is replaced in its place by what it groups,
and so are the containers that come in with it. -/
inductive Expands (grammar : Grammar) : List RuleId → List RuleId → Prop
  | nil : Expands grammar [] []
  | rule {id : RuleId} {ids expanded : List RuleId} : grammar.grouped? id = none →
      Expands grammar ids expanded → Expands grammar (id :: ids) (id :: expanded)
  | container {id : RuleId} {patterns ids inner expanded : List RuleId} :
      grammar.grouped? id = some patterns → Expands grammar patterns inner →
      Expands grammar ids expanded → Expands grammar (id :: ids) (inner ++ expanded)

/-- No container that is reached leads back to itself. -/
def Acyclic (grammar : Grammar) (ids : List RuleId) : Prop :=
  ∀ container patterns, grammar.Reaches ids container →
    grammar.grouped? container = some patterns → ¬ grammar.Reaches patterns container

/-- The containers opened and the rules found so far. -/
structure Listing where
  opened : List RuleId
  found : List RuleId

/-- List a rule once. -/
def listOnce (found : List RuleId) (id : RuleId) : List RuleId :=
  if id ∈ found then found else found ++ [id]

/-- A walk through a list of positions. Into a container it goes on, unless that is open. -/
inductive Walks (grammar : Grammar) : List RuleId → Listing → Listing → Prop
  | nil {before : Listing} : Walks grammar [] before before
  | rule {id : RuleId} {ids opened found : List RuleId} {after : Listing} :
      grammar.grouped? id = none → Walks grammar ids ⟨opened, listOnce found id⟩ after →
      Walks grammar (id :: ids) ⟨opened, found⟩ after
  | again {id : RuleId} {patterns ids : List RuleId} {before after : Listing} :
      grammar.grouped? id = some patterns → id ∈ before.opened →
      Walks grammar ids before after → Walks grammar (id :: ids) before after
  | container {id : RuleId} {patterns ids opened found : List RuleId} {middle after : Listing} :
      grammar.grouped? id = some patterns → id ∉ opened →
      Walks grammar patterns ⟨id :: opened, found⟩ middle → Walks grammar ids middle after →
      Walks grammar (id :: ids) ⟨opened, found⟩ after

variable {grammar : Grammar} {id other container : RuleId}
  {ids patterns expanded opened found : List RuleId} {before after : Listing}

/-! ## Reaching -/

theorem isTried_iff (h : id < grammar.rules.length) :
    grammar.IsTried id ↔ grammar.grouped? id = none := by
  have hget : grammar.rules[id]? = some (grammar.rules[id]) := List.getElem?_eq_getElem h
  rw [IsTried, grouped?, hget]
  generalize grammar.rules[id] = rule
  obtain ⟨location, scopes, kind⟩ := rule
  cases kind <;> simp

namespace Reaches

theorem mono {more : List RuleId} (hsubset : ids ⊆ more) (h : grammar.Reaches ids id) :
    grammar.Reaches more id := by
  induction h with
  | listed hmem => exact .listed (hsubset hmem)
  | grouped _ hgrouped hmem ih => exact .grouped ih hgrouped hmem

/-- What a container leads to is reached with it. -/
theorem trans (hcontainer : grammar.Reaches ids container)
    (hgrouped : grammar.grouped? container = some patterns) (h : grammar.Reaches patterns id) :
    grammar.Reaches ids id := by
  induction h with
  | listed hmem => exact .grouped hcontainer hgrouped hmem
  | grouped _ hinner hmem ih => exact .grouped ih hinner hmem

theorem lt (hclosed : grammar.Closed) (hids : ∀ id ∈ ids, id < grammar.rules.length)
    (h : grammar.Reaches ids id) : id < grammar.rules.length := by
  induction h with
  | listed hmem => exact hids _ hmem
  | grouped _ hgrouped hmem _ => exact lt_of_grouped hclosed hgrouped _ hmem

end Reaches

theorem Acyclic.tail (h : grammar.Acyclic (id :: ids)) : grammar.Acyclic ids := by
  intro container patterns hreach
  exact h container patterns (hreach.mono (List.subset_cons_self id ids))

theorem Acyclic.inside (h : grammar.Acyclic (id :: ids))
    (hgrouped : grammar.grouped? id = some patterns) : grammar.Acyclic patterns := by
  intro container inner hreach
  exact h container inner (.trans (.listed List.mem_cons_self) hgrouped hreach)

/-- A list is written out in one way. -/
theorem Expands.unique {expanded' : List RuleId} (h : grammar.Expands ids expanded)
    (h' : grammar.Expands ids expanded') : expanded = expanded' := by
  induction h generalizing expanded' with
  | nil =>
      cases h'
      rfl
  | rule hnone _ ih =>
      cases h' with
      | rule _ hrest => rw [ih hrest]
      | container hgrouped => cases hnone.symm.trans hgrouped
  | container hgrouped _ _ ihInner ih =>
      cases h' with
      | rule hnone => cases hnone.symm.trans hgrouped
      | container hgrouped' hinner hrest =>
          obtain rfl := Option.some.inj (hgrouped.symm.trans hgrouped')
          rw [ihInner hinner, ih hrest]

/-! ## Listing once -/

theorem mem_listOnce : other ∈ listOnce found id ↔ other ∈ found ∨ other = id := by
  unfold listOnce
  split
  next hknown =>
    constructor
    · exact Or.inl
    · rintro (hmem | rfl)
      · exact hmem
      · exact hknown
  next => simp

theorem nodup_listOnce (h : found.Nodup) : (listOnce found id).Nodup := by
  unfold listOnce
  split
  · exact h
  next hnew =>
    rw [List.nodup_append]
    refine ⟨h, List.nodup_singleton id, ?_⟩
    rintro other hmem _ hid rfl
    rw [List.mem_singleton] at hid
    exact hnew (hid ▸ hmem)

/-- Positions that are listed already change nothing. -/
theorem foldl_listOnce_of_subset (h : ids ⊆ found) : ids.foldl listOnce found = found := by
  induction ids with
  | nil => rfl
  | cons id ids ih =>
      obtain ⟨hid, hids⟩ := List.cons_subset.mp h
      rw [List.foldl_cons, listOnce, if_pos hid]
      exact ih hids

theorem mem_foldl_listOnce :
    other ∈ ids.foldl listOnce found ↔ other ∈ found ∨ other ∈ ids := by
  induction ids generalizing found with
  | nil => simp
  | cons id ids ih => rw [List.foldl_cons, ih, mem_listOnce, List.mem_cons, or_assoc]

/-- Listing each position once keeps the first occurrence of each that is new. -/
theorem foldl_listOnce (ids found : List RuleId) :
    ids.foldl listOnce found = found ++ (ids.removeAll found).eraseDups := by
  induction ids generalizing found with
  | nil => simp [List.removeAll]
  | cons id ids ih =>
      rw [List.foldl_cons, ih, listOnce]
      split
      next hknown => simp [List.removeAll, hknown]
      next hnew =>
        have hlater : ids.removeAll (found ++ [id]) =
            (ids.removeAll found).filter (fun other => !other == id) := by
          simp only [List.removeAll, List.filter_filter]
          apply List.filter_congr
          intro other _
          by_cases heq : other = id <;> simp [heq]
        rw [hlater, List.append_assoc, List.singleton_append, ← List.eraseDups_cons]
        simp [List.removeAll, hnew]

/-! ## Walking -/

namespace Walks

theorem of_append {later : List RuleId} (h : grammar.Walks (ids ++ later) before after) :
    ∃ middle, grammar.Walks ids before middle ∧ grammar.Walks later middle after := by
  induction ids generalizing before with
  | nil => exact ⟨before, .nil, h⟩
  | cons id ids ih =>
      cases h with
      | rule hnone hrest =>
          obtain ⟨middle, hfirst, hlater⟩ := ih hrest
          exact ⟨middle, .rule hnone hfirst, hlater⟩
      | again hgrouped hopened hrest =>
          obtain ⟨middle, hfirst, hlater⟩ := ih hrest
          exact ⟨middle, .again hgrouped hopened hfirst, hlater⟩
      | container hgrouped hopened hinner hrest =>
          obtain ⟨middle, hfirst, hlater⟩ := ih hrest
          exact ⟨middle, .container hgrouped hopened hinner hfirst, hlater⟩

theorem opened_subset (h : grammar.Walks ids before after) : before.opened ⊆ after.opened := by
  induction h with
  | nil => exact List.Subset.refl _
  | rule _ _ ih => exact ih
  | again _ _ _ ih => exact ih
  | container _ _ _ _ ihInner ih =>
      exact fun other hmem => ih (ihInner (List.mem_cons_of_mem _ hmem))

theorem found_subset (h : grammar.Walks ids before after) : before.found ⊆ after.found := by
  induction h with
  | nil => exact List.Subset.refl _
  | rule _ _ ih => exact fun other hmem => ih (mem_listOnce.mpr (Or.inl hmem))
  | again _ _ _ ih => exact ih
  | container _ _ _ _ ihInner ih => exact fun other hmem => ih (ihInner hmem)

theorem nodup (h : grammar.Walks ids before after) (hbefore : before.found.Nodup) :
    after.found.Nodup := by
  induction h with
  | nil => exact hbefore
  | rule _ _ ih => exact ih (nodup_listOnce hbefore)
  | again _ _ _ ih => exact ih hbefore
  | container _ _ _ _ ihInner ih => exact ih (ihInner hbefore)

/-- A walk finds only rules that it reaches. -/
theorem sound (h : grammar.Walks ids before after) (hmem : other ∈ after.found) :
    other ∈ before.found ∨ grammar.grouped? other = none ∧ grammar.Reaches ids other := by
  induction h with
  | nil => exact Or.inl hmem
  | @rule id ids _ found _ hnone _ ih =>
      rcases ih hmem with hlisted | ⟨hother, hreach⟩
      · rcases mem_listOnce.mp hlisted with hfound | rfl
        · exact Or.inl hfound
        · exact Or.inr ⟨hnone, .listed List.mem_cons_self⟩
      · exact Or.inr ⟨hother, hreach.mono (List.subset_cons_self id ids)⟩
  | @again id _ ids _ _ _ _ _ ih =>
      refine (ih hmem).imp_right fun ⟨hother, hreach⟩ => ?_
      exact ⟨hother, hreach.mono (List.subset_cons_self id ids)⟩
  | @container id _ ids _ _ _ _ hgrouped _ _ _ ihInner ih =>
      rcases ih hmem with hmiddle | ⟨hother, hreach⟩
      · refine (ihInner hmiddle).imp_right fun ⟨hother, hreach⟩ => ?_
        exact ⟨hother, .trans (.listed List.mem_cons_self) hgrouped hreach⟩
      · exact Or.inr ⟨hother, hreach.mono (List.subset_cons_self id ids)⟩

end Walks

/-- The position was come to: a container was opened, and a rule was found. -/
def Listing.Has (grammar : Grammar) (listing : Listing) (id : RuleId) : Prop :=
  match grammar.grouped? id with
  | some _ => id ∈ listing.opened
  | none => id ∈ listing.found

theorem Walks.has (h : grammar.Walks ids before after) (hid : before.Has grammar id) :
    after.Has grammar id := by
  unfold Listing.Has at *
  split at hid
  · exact h.opened_subset hid
  · exact h.found_subset hid

/-- A walk comes to all positions of its list, and to all positions in the containers that it
opens. -/
theorem Walks.complete (h : grammar.Walks ids before after) :
    (∀ id ∈ ids, after.Has grammar id) ∧
    ∀ container ∈ after.opened, container ∉ before.opened → ∀ patterns,
      grammar.grouped? container = some patterns → ∀ id ∈ patterns, after.Has grammar id := by
  induction h with
  | nil => exact ⟨fun id hmem => absurd hmem List.not_mem_nil, fun _ hmem hnot => absurd hmem hnot⟩
  | rule hnone hrest ih =>
      refine ⟨List.forall_mem_cons.mpr ⟨hrest.has ?_, ih.1⟩, ih.2⟩
      rw [Listing.Has, hnone]
      exact mem_listOnce.mpr (Or.inr rfl)
  | again hgrouped hopened hrest ih =>
      refine ⟨List.forall_mem_cons.mpr ⟨hrest.has ?_, ih.1⟩, ih.2⟩
      rw [Listing.Has, hgrouped]
      exact hopened
  | @container id patterns ids opened found middle after hgrouped hopened hinner hrest ihInner ih =>
      obtain ⟨hpatterns, hcontainers⟩ := ihInner
      refine ⟨List.forall_mem_cons.mpr ⟨hrest.has ?_, ih.1⟩, ?_⟩
      · rw [Listing.Has, hgrouped]
        exact hinner.opened_subset List.mem_cons_self
      · intro container hmem hnot inner hinnerGrouped other hother
        -- A container is opened in what follows, inside the one at hand, or is that one.
        by_cases hmiddle : container ∈ middle.opened
        · by_cases hself : container = id
          · subst hself
            obtain rfl := Option.some.inj (hgrouped.symm.trans hinnerGrouped)
            exact hrest.has (hpatterns other hother)
          · have hnew : container ∉ id :: opened := by simp [hself, hnot]
            exact hrest.has (hcontainers container hmiddle hnew inner hinnerGrouped other hother)
        · exact ih.2 container hmem hmiddle inner hinnerGrouped other hother

/-- A walk that starts with nothing opened comes to all positions that are reached. -/
theorem Walks.has_of_reaches (h : grammar.Walks ids ⟨[], []⟩ after)
    (hreach : grammar.Reaches ids id) : after.Has grammar id := by
  obtain ⟨hids, hcontainers⟩ := h.complete
  induction hreach with
  | listed hmem => exact hids _ hmem
  | grouped _ hgrouped hmem ih =>
      rw [Listing.Has, hgrouped] at ih
      exact hcontainers _ ih List.not_mem_nil _ hgrouped _ hmem

theorem Walks.mem_found_iff (h : grammar.Walks ids ⟨[], []⟩ after) :
    id ∈ after.found ↔ grammar.grouped? id = none ∧ grammar.Reaches ids id := by
  constructor
  · intro hmem
    exact (h.sound hmem).resolve_left List.not_mem_nil
  · rintro ⟨hnone, hreach⟩
    have hhas := h.has_of_reaches hreach
    rwa [Listing.Has, hnone] at hhas

/-! ## Order -/

/-- A container is settled when all that it stands for is found. -/
def Settled (grammar : Grammar) (found : List RuleId) (container : RuleId) : Prop :=
  ∃ patterns inner, grammar.grouped? container = some patterns ∧
    grammar.Expands patterns inner ∧ inner ⊆ found

theorem Settled.mono {more : List RuleId} (h : grammar.Settled found container)
    (hsubset : found ⊆ more) : grammar.Settled more container := by
  obtain ⟨patterns, inner, hgrouped, hexpands, hinner⟩ := h
  exact ⟨patterns, inner, hgrouped, hexpands, List.Subset.trans hinner hsubset⟩

/-- Where no container leads back to itself, a walk finds the rules of its list written out, each
where it first occurs. The containers that are open when the walk comes to them have to be settled,
which those are that it has gone through itself. -/
theorem Walks.expands (h : grammar.Walks ids before after) (hacyclic : grammar.Acyclic ids)
    (hopened : ∀ container ∈ before.opened, grammar.Reaches ids container →
      grammar.Settled before.found container) :
    ∃ expanded, grammar.Expands ids expanded ∧
      after.found = expanded.foldl listOnce before.found ∧
      ∀ container ∈ after.opened, container ∈ before.opened ∨
        grammar.Settled after.found container := by
  induction h with
  | nil => exact ⟨[], .nil, rfl, fun _ => Or.inl⟩
  | @rule id ids opened found after hnone _ ih =>
      obtain ⟨expanded, hexpands, hfound, hsettled⟩ := ih hacyclic.tail (by
        intro container hmem hreach
        have hold := hopened container hmem (hreach.mono (List.subset_cons_self id ids))
        exact hold.mono fun other hother => mem_listOnce.mpr (Or.inl hother))
      exact ⟨id :: expanded, .rule hnone hexpands, hfound, hsettled⟩
  | @again id patterns ids before after hgrouped hmem _ ih =>
      obtain ⟨_, inner, hgrouped', hinner, hlisted⟩ := hopened id hmem (.listed List.mem_cons_self)
      obtain rfl := Option.some.inj (hgrouped.symm.trans hgrouped')
      obtain ⟨expanded, hexpands, hfound, hsettled⟩ := ih hacyclic.tail (by
        intro container hmem hreach
        exact hopened container hmem (hreach.mono (List.subset_cons_self id ids)))
      refine ⟨inner ++ expanded, .container hgrouped hinner hexpands, ?_, hsettled⟩
      rw [List.foldl_append, foldl_listOnce_of_subset hlisted, hfound]
  | @container id patterns ids opened found middle after hgrouped _ hwalk hrest ihInner ih =>
      obtain ⟨inner, hinner, hmiddle, hinside⟩ := ihInner (hacyclic.inside hgrouped) (by
        intro container hmem hreach
        rcases List.mem_cons.mp hmem with rfl | hmem
        · exact absurd hreach (hacyclic _ _ (.listed List.mem_cons_self) hgrouped)
        · exact hopened container hmem (.trans (.listed List.mem_cons_self) hgrouped hreach))
      -- Behind the container all that it stands for is found.
      have hself : grammar.Settled middle.found id := by
        refine ⟨patterns, inner, hgrouped, hinner, fun other hmem => ?_⟩
        rw [hmiddle]
        exact mem_foldl_listOnce.mpr (Or.inr hmem)
      obtain ⟨expanded, hexpands, hfound, hsettled⟩ := ih hacyclic.tail (by
        intro container hmem hreach
        rcases hinside container hmem with hmem | hsettled
        · rcases List.mem_cons.mp hmem with rfl | hmem
          · exact hself
          · have hold := hopened container hmem (hreach.mono (List.subset_cons_self id ids))
            exact hold.mono hwalk.found_subset
        · exact hsettled)
      refine ⟨inner ++ expanded, .container hgrouped hinner hexpands, ?_, ?_⟩
      · rw [List.foldl_append, ← hmiddle, hfound]
      · intro container hmem
        rcases hsettled container hmem with hmem | hsettled
        · rcases hinside container hmem with hmem | hsettled
          · rcases List.mem_cons.mp hmem with rfl | hmem
            · exact Or.inr (hself.mono hrest.found_subset)
            · exact Or.inl hmem
          · exact Or.inr (hsettled.mono hrest.found_subset)
        · exact Or.inr hsettled

/-! ## Candidates -/

/-- Working through a list of positions is a walk, where the steps suffice. -/
theorem walks_flatten {work : List RuleId} {steps : Nat}
    (hsteps : work.length + grammar.pending opened ≤ steps) :
    ∃ after, grammar.Walks work ⟨opened, found⟩ after ∧
      grammar.flatten opened found steps work = after.found := by
  induction steps generalizing opened found work with
  | zero =>
      obtain rfl : work = [] := List.length_eq_zero_iff.mp (by omega)
      exact ⟨⟨opened, found⟩, .nil, rfl⟩
  | succ steps ih =>
      cases work with
      | nil => exact ⟨⟨opened, found⟩, .nil, rfl⟩
      | cons id work =>
          rw [List.length_cons] at hsteps
          rw [flatten]
          split
          next patterns hgrouped =>
            split
            next hopened =>
              obtain ⟨after, hwalk, hfound⟩ := @ih opened found work (by omega)
              exact ⟨after, .again hgrouped hopened hwalk, hfound⟩
            next hopened =>
              have hpending := pending_grouped hgrouped hopened
              obtain ⟨after, hwalk, hfound⟩ := @ih (id :: opened) found (patterns ++ work) (by
                rw [List.length_append]
                omega)
              obtain ⟨middle, hinner, hrest⟩ := hwalk.of_append
              exact ⟨after, .container hgrouped hopened hinner hrest, hfound⟩
          next hnone =>
            obtain ⟨after, hwalk, hfound⟩ := @ih opened (listOnce found id) work (by omega)
            refine ⟨after, .rule hnone hwalk, ?_⟩
            rw [← hfound, listOnce]
            split <;> rfl

theorem walks_candidates (grammar : Grammar) (id : RuleId) :
    ∃ opened, grammar.Walks (grammar.patternsAt id) ⟨[], []⟩ ⟨opened, grammar.candidates id⟩ := by
  obtain ⟨after, hwalk, hfound⟩ := @walks_flatten grammar [] [] (grammar.patternsAt id)
    ((grammar.patternsAt id).length + (grammar.rules.flatMap (·.patterns)).length)
    (by rw [pending_nil])
  refine ⟨after.opened, ?_⟩
  rw [candidates, ← patternsAt, hfound]
  exact hwalk

/-- The candidates of a rule of a compiled grammar are found in finitely many steps, by a walk
through its patterns that ends also where includes are cyclic. They are the rules, other than
containers, that are reached from the patterns of the rule through containers, each once. Where no
container among those reached leads back to itself, the patterns can be written out in one way, and
the candidates are the rules written out, each where it first occurs. -/
theorem compile_candidates {artifact : Artifact} (hcompile : compile artifact = .ok grammar)
    (hid : id < grammar.rules.length) :
    grammar.candidatesFrom id = .ok (grammar.candidates id) ∧
    (∃ opened, grammar.Walks (grammar.patternsAt id) ⟨[], []⟩ ⟨opened, grammar.candidates id⟩) ∧
    (grammar.candidates id).Nodup ∧
    (∀ other, other ∈ grammar.candidates id ↔
      grammar.IsTried other ∧ grammar.Reaches (grammar.patternsAt id) other) ∧
    (grammar.Acyclic (grammar.patternsAt id) →
      ∃ expanded, grammar.Expands (grammar.patternsAt id) expanded ∧
        (∀ expanded', grammar.Expands (grammar.patternsAt id) expanded' → expanded' = expanded) ∧
        grammar.candidates id = expanded.eraseDups) := by
  have hclosed := compile_closed hcompile
  obtain ⟨opened, hwalk⟩ := walks_candidates grammar id
  have hpatterns : ∀ other ∈ grammar.patternsAt id, other < grammar.rules.length := by
    obtain ⟨rule, hmem, hget, -⟩ := ruleAt_of_lt hid
    rw [patternsAt, hget]
    exact hclosed.refers rule hmem
  refine ⟨candidatesFrom_eq hclosed hid, ⟨opened, hwalk⟩, hwalk.nodup List.nodup_nil,
    fun other => ?_, ?_⟩
  · rw [hwalk.mem_found_iff]
    refine and_congr_left fun hreach => ?_
    exact (isTried_iff (hreach.lt hclosed hpatterns)).symm
  · intro hacyclic
    obtain ⟨expanded, hexpands, hfound, -⟩ := hwalk.expands hacyclic
      fun container hmem => absurd hmem List.not_mem_nil
    refine ⟨expanded, hexpands, fun expanded' h => h.unique hexpands, ?_⟩
    rw [← @List.removeAll_nil _ _ expanded, ← List.nil_append (List.eraseDups _),
      ← foldl_listOnce]
    exact hfound

/-- A list of separators, which holds the comma, and the comma once more. -/
def separators : Artifact :=
  { scopeName := "source", patterns := [Bundled.see "#List", Bundled.see "#Comma"],
    repository := [("Comma", Bundled.word "," "comma"),
      ("List", Bundled.group [Bundled.see "#Semicolon", Bundled.see "#Comma"]),
      ("Semicolon", Bundled.word ";" "semicolon")] }

/-- Written out, the list has the comma twice. The candidates keep the first of the two. -/
theorem compile_candidates_separators :
    ∃ grammar, compile separators = .ok grammar ∧ root < grammar.rules.length ∧
      grammar.Acyclic (grammar.patternsAt root) ∧
      grammar.Expands (grammar.patternsAt root) [3, 1, 1] ∧ grammar.candidates root = [3, 1] := by
  let grammar : Grammar := ⟨none, "source", [],
    [⟨"grammar", [], .container [2, 1]⟩,
      ⟨"repository.Comma", ["comma"], .single (.set (.single ',')) []⟩,
      ⟨"repository.List", [], .container [3, 1]⟩,
      ⟨"repository.Semicolon", ["semicolon"], .single (.set (.single ';')) []⟩]⟩
  have hcompile : compile separators = .ok grammar := rfl
  have hroot : root < grammar.rules.length := by decide
  have hlist : grammar.grouped? 2 = some [3, 1] := rfl
  have hexpands : grammar.Expands (grammar.patternsAt root) [3, 1, 1] :=
    .container hlist (.rule rfl (.rule rfl .nil)) (.rule rfl .nil)
  -- Only the list is a container here, and what it holds is none.
  have hinside : ∀ id, grammar.Reaches [3, 1] id → id = 3 ∨ id = 1 := by
    intro id hreach
    induction hreach with
    | listed hmem => simpa using hmem
    | grouped _ hgrouped _ ih => rcases ih with rfl | rfl <;> cases hgrouped
  have hreached : ∀ id, grammar.Reaches [2, 1] id → id = 2 ∨ id = 3 ∨ id = 1 := by
    intro id hreach
    induction hreach with
    | listed hmem => rcases List.mem_pair.mp hmem with rfl | rfl <;> simp
    | grouped _ hgrouped hmem ih =>
        rcases ih with rfl | rfl | rfl
        · cases hgrouped
          rcases List.mem_pair.mp hmem with rfl | rfl <;> simp
        · cases hgrouped
        · cases hgrouped
  have hacyclic : grammar.Acyclic (grammar.patternsAt root) := by
    intro container patterns hreach hgrouped hself
    rcases hreached container hreach with rfl | rfl | rfl
    · cases hgrouped
      rcases hinside 2 hself with heq | heq <;> cases heq
    · cases hgrouped
    · cases hgrouped
  obtain ⟨-, -, -, -, hordered⟩ := compile_candidates hcompile hroot
  obtain ⟨expanded, -, hunique, hcandidates⟩ := hordered hacyclic
  rw [← hunique _ hexpands] at hcandidates
  exact ⟨grammar, hcompile, hroot, hacyclic, hexpands, hcandidates.trans (by decide)⟩

end TokenConcord.Grammar
