import TokenConcord.Proofs.Reconcile.Mismatches

/-!
# Tables and the comparisons that use them

A table of entries exists if no kind is repeated, and it says of each kind what its entry says,
wherever the entry stands. A table that lists every kind never ends a comparison with a mapping
fault, and any other one does so for some streams.
-/

namespace TokenConcord

open Lexing Outcome

namespace ClassificationTable

variable {table : ClassificationTable} {entries : List (Kind × String)} {kind : Kind}
  {label : String}

/-! ## Building a table -/

/-- The first entry whose kind occurs before it is one for this kind. -/
def FirstRepeated (entries : List (Kind × String)) (kind : Kind) : Prop :=
  ∃ before label after, entries = before ++ (kind, label) :: after ∧
    (before.map (·.1)).Nodup ∧ kind ∈ before.map (·.1)

theorem isSome_get?_iff : (table.get? kind).isSome = true ↔ kind ∈ table.kinds := by
  rw [← not_iff_not, Option.not_isSome_iff_eq_none, get?_eq_none_iff]

theorem insert_error_iff {fault : MappingError} :
    table.insert kind label = .error fault ↔ kind ∈ table.kinds ∧ fault = .duplicate kind := by
  rw [← isSome_get?_iff, insert]
  split <;> simp [*, eq_comm]

theorem kinds_ofEntries (h : ofEntries entries = .ok table) :
    table.kinds = entries.map (·.1) := by
  rw [kinds, insertAll_ok h]
  simp [empty, Function.comp_def]

/-- The entries in front of the first repetition make up a table, which lists its kind. -/
theorem ofEntries_error {fault : MappingError} (h : ofEntries entries = .error fault) :
    ∃ kind, FirstRepeated entries kind ∧ fault = .duplicate kind := by
  obtain ⟨before, ⟨kind, label⟩, after, table, rfl, hbefore, hinsert⟩ := foldlM_error_iff.mp h
  obtain ⟨hlisted, rfl⟩ := insert_error_iff.mp hinsert
  have hnodup := table.distinct
  rw [← kinds, kinds_ofEntries hbefore] at hnodup
  rw [kinds_ofEntries hbefore] at hlisted
  exact ⟨kind, ⟨before, label, after, rfl, hnodup, hlisted⟩, rfl⟩

theorem exists_ofEntries_iff :
    (∃ table, ofEntries entries = .ok table) ↔ (entries.map (·.1)).Nodup := by
  constructor
  · rintro ⟨table, h⟩
    rw [← kinds_ofEntries h]
    exact table.distinct
  · intro hnodup
    cases h : ofEntries entries with
    | ok table => exact ⟨table, rfl⟩
    | error fault =>
        obtain ⟨kind, ⟨before, label, after, rfl, _, hmem⟩, _⟩ := ofEntries_error h
        rw [List.map_append, List.map_cons] at hnodup
        exact absurd rfl ((List.nodup_append.mp hnodup).2.2 kind hmem kind List.mem_cons_self)

theorem ofEntries_error_iff {fault : MappingError} :
    ofEntries entries = .error fault ↔ ∃ kind, FirstRepeated entries kind ∧
      fault = .duplicate kind := by
  refine ⟨ofEntries_error, ?_⟩
  rintro ⟨kind, ⟨before, label, after, rfl, hnodup, hmem⟩, rfl⟩
  obtain ⟨table, hbefore⟩ := exists_ofEntries_iff.mpr hnodup
  rw [← kinds_ofEntries hbefore] at hmem
  exact foldlM_error_iff.mpr
    ⟨before, (kind, label), after, table, rfl, hbefore, insert_error_iff.mpr ⟨hmem, rfl⟩⟩

/-! ## Looking a kind up -/

/-- Two tables with the same entries give the same answers, whatever the order of the entries. -/
theorem expected_eq_of_perm {other : ClassificationTable}
    (h : other.entries.Perm table.entries) (kind : Kind) :
    other.expected kind = table.expected kind := by
  have hkinds : other.kinds.Perm table.kinds := h.map _
  by_cases hlisted : kind ∈ table.kinds
  · obtain ⟨scope, hmem⟩ := exists_entry hlisted
    rw [expected_ok_iff.mpr hmem, expected_ok_iff.mpr (h.mem_iff.mpr hmem)]
  · rw [expected_of_unlisted hlisted, expected_of_unlisted (mt hkinds.mem_iff.mp hlisted)]

/-! ## Complete tables -/

theorem all_ordered : Kind.all.Pairwise (·.ctorIdx < ·.ctorIdx) := by decide

/-- The first unlisted kind is the one declared before all others. -/
theorem firstUnlisted_all_iff : table.FirstUnlisted Kind.all kind ↔
    kind ∉ table.kinds ∧ ∀ other : Kind, other.ctorIdx < kind.ctorIdx → other ∈ table.kinds := by
  constructor
  · rintro ⟨before, after, hall, hlisted, hunlisted⟩
    have hordered := all_ordered
    rw [hall] at hordered
    obtain ⟨_, hbehind, _⟩ := List.pairwise_append.mp hordered
    refine ⟨hunlisted, fun other hlt => ?_⟩
    have hmem := Kind.mem_all other
    rw [hall, List.mem_append, List.mem_cons] at hmem
    rcases hmem with hbefore | rfl | hafter
    · exact hlisted other hbefore
    · exact absurd hlt (Nat.lt_irrefl _)
    · exact absurd hlt (List.rel_of_pairwise_cons hbehind hafter).not_gt
  · rintro ⟨hunlisted, hearlier⟩
    obtain ⟨before, after, hall⟩ := List.append_of_mem (Kind.mem_all kind)
    have hordered := all_ordered
    rw [hall] at hordered
    refine ⟨before, after, hall, fun earlier hmem => hearlier earlier ?_, hunlisted⟩
    exact (List.pairwise_append.mp hordered).2.2 earlier hmem kind List.mem_cons_self

theorem validate_error_iff {fault : MappingError} :
    table.validate = .error fault ↔ ∃ kind, table.FirstUnlisted Kind.all kind ∧
      fault = .unmapped kind := by
  simp only [← find?_unlisted_iff, validate]
  cases Kind.all.find? fun kind => (table.get? kind).isNone <;> simp [eq_comm]

theorem validate_ok_iff : table.validate = .ok () ↔ ∀ kind, kind ∈ table.kinds := by
  have hlisted : ∀ kind, ¬ (table.get? kind).isNone = true ↔ kind ∈ table.kinds := fun kind => by
    rw [Option.isNone_iff_eq_none, get?_eq_none_iff, not_not]
  have hnone : Kind.all.find? (fun kind => (table.get? kind).isNone) = none ↔
      ∀ kind, kind ∈ table.kinds := by
    rw [List.find?_eq_none]
    exact ⟨fun h kind => (hlisted kind).mp (h kind (Kind.mem_all kind)),
      fun h kind _ => (hlisted kind).mpr (h kind)⟩
  rw [← hnone, validate]
  cases Kind.all.find? fun kind => (table.get? kind).isNone <;> simp

/-- A complete table is one that never ends a comparison with a mapping fault. -/
theorem validate_ok_iff_forall : table.validate = .ok () ↔
    ∀ c : Comparison, c.table = table → ∀ fault, c.checkSame ≠ .error (.mapping fault) := by
  rw [validate_ok_iff]
  constructor
  · rintro hlisted c rfl fault hfault
    rw [c.checkSame_eq] at hfault
    split at hfault
    · obtain ⟨kind, ⟨_, _, _, _, hunlisted⟩, _⟩ := Comparison.checkOffsets_mapping_iff.mp hfault
      exact hunlisted (hlisted kind)
    · cases hfault
  · intro hnever kind
    by_contra hunlisted
    let c : Comparison :=
      { source := [], grammarTokens := [{ start := 0, stop := 0, scopes := [] }]
        referenceTokens := [⟨kind, 0, 0⟩], table }
    have hfirst : table.FirstUnlisted c.comparedKinds kind :=
      ⟨[], [], rfl, by simp, hunlisted⟩
    have hlength : c.grammarTokens.length = c.referenceTokens.length := rfl
    refine hnever c rfl (.unmapped kind) ?_
    rw [c.checkSame_eq, if_pos hlength, Comparison.checkOffsets_mapping_iff]
    exact ⟨kind, hfirst, rfl⟩

/-- A table of entries exists exactly if no kind occurs twice in them, and otherwise the first
repetition is reported. A table answers for each kind with the label that its entry has, whatever
the order of the entries. It is complete exactly if no comparison can end with a mapping fault, and
otherwise the first kind that it lacks is reported. -/
theorem ofEntries_spec (entries : List (Kind × String)) :
    ((∃ table, ofEntries entries = .ok table) ↔ (entries.map (·.1)).Nodup) ∧
    (∀ fault, ofEntries entries = .error fault ↔
      ∃ kind, FirstRepeated entries kind ∧ fault = .duplicate kind) ∧
    ∀ table, ofEntries entries = .ok table →
      (∀ kind label, (kind, label) ∈ entries → table.expected kind = .ok (.ofLabel label)) ∧
      (∀ kind, kind ∉ entries.map (·.1) → table.expected kind = .error (.unmapped kind)) ∧
      (∀ entries', entries'.Perm entries → ∃ table', ofEntries entries' = .ok table' ∧
        ∀ kind, table'.expected kind = table.expected kind) ∧
      (table.validate = .ok () ↔
        ∀ c : Comparison, c.table = table → ∀ fault, c.checkSame ≠ .error (.mapping fault)) ∧
      ∀ fault, table.validate = .error fault ↔ ∃ kind, kind ∉ entries.map (·.1) ∧
        (∀ other : Kind, other.ctorIdx < kind.ctorIdx → other ∈ entries.map (·.1)) ∧
        fault = .unmapped kind := by
  refine ⟨exists_ofEntries_iff, fun fault => ofEntries_error_iff, fun table h => ?_⟩
  have hkinds := kinds_ofEntries h
  have hentries := insertAll_ok h
  refine ⟨fun kind label hmem => ?_, fun kind hmem => ?_, fun entries' hperm => ?_,
    validate_ok_iff_forall, fun fault => ?_⟩
  · refine expected_ok_iff.mpr ?_
    rw [hentries]
    exact List.mem_append_right _ (List.mem_map_of_mem hmem)
  · exact expected_of_unlisted (hkinds ▸ hmem)
  · have hnodup' : (entries'.map (·.1)).Nodup :=
      (hperm.map _).nodup_iff.mpr (exists_ofEntries_iff.mp ⟨table, h⟩)
    obtain ⟨table', h'⟩ := exists_ofEntries_iff.mpr hnodup'
    refine ⟨table', h', expected_eq_of_perm ?_⟩
    rw [hentries, insertAll_ok h']
    exact (hperm.map _).append_left _
  · simp only [validate_error_iff, firstUnlisted_all_iff, hkinds, and_assoc]

/-- The standard entries without the one for the null-coalescing operator. -/
theorem ofEntries_spec_incomplete :
    let entries := standardEntries.filter (·.1 != .nullCoalescingOperator)
    ∃ table, ofEntries entries = .ok table ∧
      table.expected .numericLiteral = .ok (.ofLabel "constant.numeric.") ∧
      table.validate = .error (.unmapped .nullCoalescingOperator) ∧
      ∃ c : Comparison, c.table = table ∧ ∃ fault, c.checkSame = .error (.mapping fault) := by
  intro entries
  obtain ⟨hbuilt, _, hspec⟩ := ofEntries_spec entries
  obtain ⟨table, htable⟩ := hbuilt.mpr (by decide)
  obtain ⟨hexpected, _, _, hcomplete, hvalidate⟩ := hspec table htable
  have hfault : table.validate = .error (.unmapped .nullCoalescingOperator) :=
    (hvalidate _).mpr ⟨.nullCoalescingOperator, by decide, fun other => by
      cases other <;> decide, rfl⟩
  have hincomplete := mt hcomplete.mpr (by rw [hfault]; exact fun h => by cases h)
  simp only [not_forall, not_not] at hincomplete
  obtain ⟨c, hc, fault, hsame⟩ := hincomplete
  exact ⟨table, htable, hexpected _ _ (by decide), hfault, c, hc, fault, hsame⟩

end ClassificationTable

end TokenConcord
