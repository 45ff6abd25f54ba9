import TokenConcord.Proofs.Reconcile.Agreement
import TokenConcord.Proofs.Text.Cuts

/-!
# What a comparison reports

Two token streams are held against each other at all places that both of them reach. The first
reference kind there that the table does not list ends the comparison, whatever the streams look
like in front of it. If the table lists all of them, the places where the streams disagree are
reported, each once and in order.
-/

namespace TokenConcord

open Lexing Outcome

/-! ## Listed kinds -/

namespace ClassificationTable

variable {table : ClassificationTable} {kind : Kind}

/-- The kind is the first one of these that the table does not list. -/
def FirstUnlisted (table : ClassificationTable) (kinds : List Kind) (kind : Kind) : Prop :=
  ∃ before after, kinds = before ++ kind :: after ∧ (∀ earlier ∈ before, earlier ∈ table.kinds) ∧
    kind ∉ table.kinds

theorem find?_unlisted_iff {kinds : List Kind} :
    kinds.find? (fun kind => (table.get? kind).isNone) = some kind ↔
      table.FirstUnlisted kinds kind := by
  have hlisted : ∀ kind, (!(table.get? kind).isNone) = true ↔ kind ∈ table.kinds := fun kind => by
    rw [Bool.not_eq_true', Option.isNone_eq_false_iff, ← not_iff_not, Option.not_isSome_iff_eq_none,
      get?_eq_none_iff]
  rw [List.find?_eq_some_iff_append, Option.isNone_iff_eq_none, get?_eq_none_iff, FirstUnlisted]
  simp only [hlisted]
  grind

theorem expected_of_unlisted (h : kind ∉ table.kinds) :
    table.expected kind = .error (.unmapped kind) := by
  rw [expected, get?_eq_none_iff.mpr h]

theorem exists_entry (h : kind ∈ table.kinds) : ∃ scope, (kind, scope) ∈ table.entries := by
  obtain ⟨⟨_, scope⟩, hmem, rfl⟩ := List.mem_map.mp h
  exact ⟨scope, hmem⟩

end ClassificationTable

/-! ## Names of expectations -/

namespace ExpectedScope

/-- What a report calls the expectation: by its label, or by the stem with an asterisk. -/
inductive Named : ExpectedScope → String → Prop
  | exact (label : String) : Named (.exact label) label
  | family (stem : String) : Named (.family stem) (stem ++ "*")

theorem named_iff {scope : ExpectedScope} {label : String} :
    scope.Named label ↔ scope.render = label := by
  cases scope with
  | exact expected =>
      constructor
      · rintro ⟨⟩
        rfl
      · rintro rfl
        exact .exact expected
  | family stem =>
      constructor
      · rintro ⟨⟩
        rfl
      · rintro rfl
        exact .family stem

end ExpectedScope

/-! ## Text under a token -/

namespace ScopedToken

/-- The token covers the piece of the text. -/
def LiesOver (token : ScopedToken) (source piece : Text) : Prop :=
  ∃ front rest, source = front ++ (piece ++ rest) ∧ front.width = token.start ∧
    token.start + piece.width = token.stop

/-- What is shown for the token: the piece of the text that it covers, or nothing if its ends are
no cuts of the text or not in order. -/
def ShownAs (token : ScopedToken) (source snippet : Text) : Prop :=
  token.LiesOver source snippet ∨ (∀ piece, ¬ token.LiesOver source piece) ∧ snippet = []

theorem shownAs_iff {token : ScopedToken} {source snippet : Text} :
    token.ShownAs source snippet ↔ (token.text? source).getD [] = snippet := by
  have hlies : ∀ piece, token.LiesOver source piece ↔ token.text? source = some piece :=
    fun piece => Text.slice?_eq_some_iff.symm
  simp only [ShownAs, hlies]
  cases token.text? source <;> simp [eq_comm]

end ScopedToken

/-! ## Places -/

namespace Comparison

variable {source : Text} {table : ClassificationTable} {index : Nat}
  {actuals : List ScopedToken} {expecteds : List Token} {found : List TokenMismatch}
  {m : TokenMismatch}

/-- Reference kinds at the places that both streams reach. -/
def comparedKinds (c : Comparison) : List Kind :=
  (c.referenceTokens.take c.grammarTokens.length).map (·.kind)

/-- The tokens disagree, and the record says how. -/
structure Differ (source : Text) (table : ClassificationTable) (actual : ScopedToken)
    (expected : Token) (m : TokenMismatch) : Prop where
  disagree : ¬ Agrees table actual expected
  snippet : actual.ShownAs source m.snippet
  kind : m.kind = expected.kind
  expectedLabel : ∃ scope, (expected.kind, scope) ∈ table.entries ∧ scope.Named m.expectedLabel
  actualLabel : actual.Labelled m.actualLabel
  expectedEnds : m.expected = (expected.start, expected.stop)
  actualEnds : m.actual = (actual.start, actual.stop)

variable {actual : ScopedToken} {expected : Token} {scope : ExpectedScope}

/-- The record of a place is determined by what it says about the tokens there. -/
theorem differ_iff (hscope : table.expected expected.kind = .ok scope) :
    m.index = index ∧ Differ source table actual expected m ↔
      mismatch? source index scope actual expected = some m := by
  constructor
  · rintro ⟨rfl, h⟩
    obtain ⟨other, hother, hnamed⟩ := h.expectedLabel
    cases hscope.symm.trans (ClassificationTable.expected_ok_iff.mpr hother)
    have hsome : mismatch? source m.index scope actual expected ≠ none :=
      mt (mismatch?_eq_none_iff hscope).mp h.disagree
    unfold mismatch? at hsome ⊢
    split at hsome
    · exact absurd rfl hsome
    next hdiffer =>
      rw [if_neg hdiffer, ScopedToken.shownAs_iff.mp h.snippet,
        ExpectedScope.named_iff.mp hnamed, ScopedToken.labelled_iff.mp h.actualLabel, ← h.kind,
        ← h.expectedEnds, ← h.actualEnds]
  · intro h
    have hdisagree : ¬ Agrees table actual expected := by
      rw [← mismatch?_eq_none_iff hscope, h]
      exact Option.some_ne_none m
    unfold mismatch? at h
    split at h
    · cases h
    · cases h
      exact ⟨rfl, hdisagree, ScopedToken.shownAs_iff.mpr rfl, rfl,
        ⟨scope, ClassificationTable.expected_ok_iff.mp hscope, ExpectedScope.named_iff.mpr rfl⟩,
        ScopedToken.labelled_iff.mpr rfl, rfl, rfl⟩

/-- Tokens that disagree have a record, if the table lists the kind. -/
theorem exists_differ (hlisted : expected.kind ∈ table.kinds)
    (hdisagree : ¬ Agrees table actual expected) :
    ∃ m, m.index = index ∧ Differ source table actual expected m := by
  obtain ⟨scope, hmem⟩ := ClassificationTable.exists_entry hlisted
  have hscope := ClassificationTable.expected_ok_iff.mpr hmem
  have hsome : mismatch? source index scope actual expected ≠ none :=
    mt (mismatch?_eq_none_iff hscope).mp hdisagree
  obtain ⟨m, hm⟩ := Option.ne_none_iff_exists'.mp hsome
  exact ⟨m, (differ_iff hscope).mpr hm⟩

/-- The comparison breaks off at the first kind that the table does not list. -/
theorem mismatches_error_iff {fault : MappingError} :
    mismatches source table index actuals expecteds = .error fault ↔
      ∃ kind, table.FirstUnlisted ((expecteds.take actuals.length).map (·.kind)) kind ∧
        fault = .unmapped kind := by
  simp only [← ClassificationTable.find?_unlisted_iff]
  induction actuals generalizing index expecteds with
  | nil => simp [mismatches]
  | cons actual actuals ih =>
      cases expecteds with
      | nil => simp [mismatches]
      | cons expected expecteds =>
          rw [mismatches, List.length_cons, List.take_succ_cons, List.map_cons, List.find?_cons,
            bind_error_iff]
          cases hget : table.get? expected.kind with
          | none => simp [ClassificationTable.expected, hget, eq_comm]
          | some scope =>
              -- Nothing can fail here but the check of the later places.
              simp only [ClassificationTable.expected, hget, bind_error_iff, pure_ne_error,
                and_false, exists_false, or_false, reduceCtorEq, false_or, Except.ok.injEq,
                exists_eq_left']
              exact @ih (index + 1) expecteds

/-- What is found is every place where the streams disagree, from the first one to the last. -/
theorem mismatches_ok (h : mismatches source table index actuals expecteds = .ok found) :
    found.Pairwise (·.index < ·.index) ∧ (∀ m ∈ found, index ≤ m.index) ∧
      ∀ m, m ∈ found ↔ ∃ place actual expected,
        actuals[place]? = some actual ∧ expecteds[place]? = some expected ∧
          m.index = index + place ∧ Differ source table actual expected m := by
  induction actuals generalizing index expecteds found with
  | nil =>
      cases expecteds <;> cases h <;> simp
  | cons actual actuals ih =>
      cases expecteds with
      | nil =>
          cases h
          simp
      | cons expected expecteds =>
          rw [mismatches] at h
          simp only [bind_ok_iff, pure_ok_iff] at h
          obtain ⟨scope, hscope, later, hlater, rfl⟩ := h
          obtain ⟨hsorted, hbehind, hmem⟩ := ih hlater
          have hhere : ∀ m, m ∈ (mismatch? source index scope actual expected).toList ↔
              m.index = index ∧ Differ source table actual expected m := fun m => by
            rw [Option.mem_toList, differ_iff hscope]
          refine ⟨List.pairwise_append.mpr ⟨?_, hsorted, fun m hm later hlater => ?_⟩,
            fun m hm => ?_, fun m => ?_⟩
          · cases mismatch? source index scope actual expected <;> simp
          · rw [((hhere m).mp hm).1]
            exact hbehind later hlater
          · rcases List.mem_append.mp hm with hm | hm
            · exact ((hhere m).mp hm).1.ge
            · exact Nat.le_of_succ_le (hbehind m hm)
          · rw [List.mem_append, hhere, hmem]
            constructor
            · rintro (hfirst | ⟨place, actual', expected', hactual, hexpected, hindex, hdiffer⟩)
              · exact ⟨0, actual, expected, rfl, rfl, hfirst⟩
              · refine ⟨place + 1, actual', expected', hactual, hexpected, ?_, hdiffer⟩
                omega
            · rintro ⟨place, actual', expected', hactual, hexpected, hindex, hdiffer⟩
              cases place with
              | zero =>
                  cases hactual
                  cases hexpected
                  exact .inl ⟨hindex, hdiffer⟩
              | succ place =>
                  refine .inr ⟨place, actual', expected', hactual, hexpected, ?_, hdiffer⟩
                  omega

/-- The streams agree at every place that both of them reach. -/
def Agree (c : Comparison) : Prop :=
  ∀ (index : Nat) (actual : ScopedToken) (expected : Token), c.grammarTokens[index]? = some actual →
    c.referenceTokens[index]? = some expected → Agrees c.table actual expected

/-- The places where the streams disagree, each with its record, from the first to the last. -/
structure Lists (c : Comparison) (found : List TokenMismatch) : Prop where
  ordered : found.Pairwise (·.index < ·.index)
  exact (m : TokenMismatch) : m ∈ found ↔ ∃ actual expected,
    c.grammarTokens[m.index]? = some actual ∧ c.referenceTokens[m.index]? = some expected ∧
      Differ c.source c.table actual expected m

theorem lists_of_mismatches {c : Comparison}
    (h : mismatches c.source c.table 0 c.grammarTokens c.referenceTokens = .ok found) :
    c.Lists found := by
  obtain ⟨hordered, _, hmem⟩ := mismatches_ok h
  refine ⟨hordered, fun m => (hmem m).trans ⟨?_, ?_⟩⟩
  · rintro ⟨place, actual, expected, hactual, hexpected, hindex, hdiffer⟩
    rw [Nat.zero_add] at hindex
    rw [hindex]
    exact ⟨actual, expected, hactual, hexpected, hdiffer⟩
  · rintro ⟨actual, expected, hactual, hexpected, hdiffer⟩
    exact ⟨m.index, actual, expected, hactual, hexpected, (Nat.zero_add _).symm, hdiffer⟩

theorem checkOffsets_mapping_iff {c : Comparison} {fault : MappingError} :
    c.checkOffsets = .error (.mapping fault) ↔
      ∃ kind, c.table.FirstUnlisted c.comparedKinds kind ∧ fault = .unmapped kind := by
  rw [comparedKinds, ← @mismatches_error_iff c.source c.table 0, checkOffsets]
  cases mismatches c.source c.table 0 c.grammarTokens c.referenceTokens with
  | error other => simp
  | ok found => cases found <;> simp

/-- A comparison that does not break off finds every place where the streams disagree. -/
theorem checkOffsets_of_listed {c : Comparison}
    (hlisted : ∀ kind ∈ c.comparedKinds, kind ∈ c.table.kinds) :
    ∃ found, c.Lists found ∧
      c.checkOffsets = if found = [] then .ok () else .error (.equivalence (.tokens found)) := by
  rw [checkOffsets]
  cases hfound : mismatches c.source c.table 0 c.grammarTokens c.referenceTokens with
  | error fault =>
      obtain ⟨kind, ⟨before, after, hkinds, _, hunlisted⟩, _⟩ := mismatches_error_iff.mp hfound
      refine absurd (hlisted kind ?_) hunlisted
      rw [comparedKinds, hkinds]
      exact List.mem_append_right _ List.mem_cons_self
  | ok found =>
      refine ⟨found, lists_of_mismatches hfound, ?_⟩
      cases found <;> rfl

theorem kind_mem_comparedKinds {c : Comparison} {actual : ScopedToken} {expected : Token}
    (hactual : c.grammarTokens[index]? = some actual)
    (hexpected : c.referenceTokens[index]? = some expected) : expected.kind ∈ c.comparedKinds := by
  have hreached : index < c.grammarTokens.length := (List.getElem?_eq_some_iff.mp hactual).1
  rw [← List.getElem?_take_of_lt hreached] at hexpected
  exact List.mem_map_of_mem (List.mem_of_getElem? hexpected)

theorem Lists.eq_nil_iff {c : Comparison} (h : c.Lists found)
    (hlisted : ∀ kind ∈ c.comparedKinds, kind ∈ c.table.kinds) : found = [] ↔ c.Agree := by
  rw [List.eq_nil_iff_forall_not_mem]
  constructor
  · intro hnone index actual expected hactual hexpected
    by_contra hdisagree
    have hkind := hlisted expected.kind (kind_mem_comparedKinds hactual hexpected)
    obtain ⟨m, rfl, hdiffer⟩ : ∃ m, m.index = index ∧ Differ c.source c.table actual expected m :=
      exists_differ hkind hdisagree
    exact hnone m ((h.exact m).mpr ⟨actual, expected, hactual, hexpected, hdiffer⟩)
  · intro hagree m hm
    obtain ⟨actual, expected, hactual, hexpected, hdiffer⟩ := (h.exact m).mp hm
    exact hdiffer.disagree (hagree _ _ _ hactual hexpected)

theorem checkSame_eq (c : Comparison) :
    c.checkSame = if c.grammarTokens.length = c.referenceTokens.length then c.checkOffsets
      else .error (.equivalence (.count c.grammarTokens.length c.referenceTokens.length)) := by
  rw [checkSame, checkCount]
  split <;> rfl

/-- The check of the places ends with a mapping fault exactly if the table does not list one of the
kinds that are compared, and the first of these is the one it names. If the table lists all of them,
the check succeeds exactly if the streams agree, and otherwise reports all places where they do not.
Streams of different lengths are told apart by their lengths alone. -/
theorem reports_disagreements (c : Comparison) :
    (∀ fault, c.checkOffsets = .error (.mapping fault) ↔
      ∃ kind, c.table.FirstUnlisted c.comparedKinds kind ∧ fault = .unmapped kind) ∧
    ((∀ kind ∈ c.comparedKinds, kind ∈ c.table.kinds) →
      (c.checkOffsets = .ok () ↔ c.Agree) ∧
      (c.checkOffsets ≠ .ok () →
        ∃ found, c.Lists found ∧ c.checkOffsets = .error (.equivalence (.tokens found)))) ∧
    c.checkSame = if c.grammarTokens.length = c.referenceTokens.length then c.checkOffsets
      else .error (.equivalence (.count c.grammarTokens.length c.referenceTokens.length)) := by
  refine ⟨fun fault => checkOffsets_mapping_iff, fun hlisted => ?_, c.checkSame_eq⟩
  obtain ⟨found, hfound, hcheck⟩ := checkOffsets_of_listed hlisted
  rw [hcheck, ← hfound.eq_nil_iff hlisted]
  by_cases hnil : found = []
  · simp [hnil]
  · simp only [if_neg hnil]
    exact ⟨iff_of_false (fun h => by cases h) hnil, fun _ => ⟨found, hfound, rfl⟩⟩

/-- A word in place of a name, an operator that agrees, and a number that starts too early. -/
theorem reports_disagreements_assignment :
    let c : Comparison :=
      { source := ['_', ' ', '=', ' ', '1', '2']
        grammarTokens := [
          { start := 0, stop := 1, scopes := ["keyword.operator.implicitvariable.powerquery"] },
          { start := 2, stop := 3
            scopes := ["keyword.operator.assignment-or-comparison.powerquery"] },
          { start := 4, stop := 6, scopes := ["constant.numeric.integer.powerquery"] }]
        referenceTokens := [⟨.identifier, 0, 1⟩, ⟨.equal, 2, 3⟩, ⟨.numericLiteral, 5, 6⟩]
        table := ⟨[(.identifier, .exact "entity.name.powerquery"),
          (.equal, .exact "keyword.operator.assignment-or-comparison.powerquery"),
          (.numericLiteral, .family "constant.numeric.")], by decide⟩ }
    let found : List TokenMismatch := [
      { index := 0, snippet := ['_'], kind := .identifier
        expectedLabel := "entity.name.powerquery"
        actualLabel := "keyword.operator.implicitvariable.powerquery"
        expected := (0, 1), actual := (0, 1) },
      { index := 2, snippet := ['1', '2'], kind := .numericLiteral
        expectedLabel := "constant.numeric.*"
        actualLabel := "constant.numeric.integer.powerquery"
        expected := (5, 6), actual := (4, 6) }]
    (∀ kind ∈ c.comparedKinds, kind ∈ c.table.kinds) ∧ ¬ c.Agree ∧ c.Lists found ∧
      c.checkSame = .error (.equivalence (.tokens found)) := by
  intro c found
  have hlisted : ∀ kind ∈ c.comparedKinds, kind ∈ c.table.kinds := by decide
  have hoffsets : c.checkOffsets = .error (.equivalence (.tokens found)) := by decide
  have hfails : c.checkOffsets ≠ .ok () := fun h => by cases hoffsets.symm.trans h
  obtain ⟨hagree, hdisagree⟩ := (reports_disagreements c).2.1 hlisted
  obtain ⟨_, hfound, hcheck⟩ := hdisagree hfails
  cases hoffsets.symm.trans hcheck
  exact ⟨hlisted, mt hagree.mpr hfails, hfound, (reports_disagreements c).2.2.trans hoffsets⟩

end Comparison

end TokenConcord
