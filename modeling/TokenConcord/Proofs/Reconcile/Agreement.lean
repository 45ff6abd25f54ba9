import Mathlib.Data.List.Nodup
import TokenConcord.Proofs.Bundled.Items
import TokenConcord.Proofs.Outcome
import TokenConcord.Reconcile.Line

/-!
# Agreement on lines of items

A line of items reconciles under the bundled grammar and the standard table: the reference lexer
gives one token for each item, and so does the grammar once its tokens are normalized, with the
same ends and a label that the table accepts.
-/

namespace TokenConcord

open Lexing Outcome

/-! ## Tables -/

namespace ClassificationTable

theorem insert_ok {table table' : ClassificationTable} {kind : Kind} {label : String}
    (h : table.insert kind label = .ok table') :
    table'.entries = table.entries ++ [(kind, .ofLabel label)] := by
  unfold insert at h
  split at h
  · cases h
  · cases h
    rfl

theorem insertAll_ok {start table : ClassificationTable} {entries : List (Kind × String)}
    (h : entries.foldlM (fun table (kind, label) => table.insert kind label) start = .ok table) :
    table.entries = start.entries ++ entries.map fun entry => (entry.1, .ofLabel entry.2) := by
  induction entries generalizing start with
  | nil =>
      cases h
      simp
  | cons entry entries ih =>
      obtain ⟨kind, label⟩ := entry
      rw [List.foldlM_cons] at h
      obtain ⟨next, hinsert, h⟩ := bind_ok_iff.mp h
      rw [ih h, insert_ok hinsert]
      simp

/-- The standard table lists its entries as they are. -/
theorem standard_ok {table : ClassificationTable} (h : standard = .ok table) :
    table.entries = standardEntries.map fun entry => (entry.1, .ofLabel entry.2) := by
  obtain ⟨found, hentries, h⟩ := bind_ok_iff.mp h
  obtain ⟨_, _, heq⟩ := bind_ok_iff.mp h
  cases heq
  rw [insertAll_ok hentries]
  rfl

/-- The table answers with what its entry says: no other entry has the kind. -/
theorem expected_ok_iff {table : ClassificationTable} {kind : Kind} {scope : ExpectedScope} :
    table.expected kind = .ok scope ↔ (kind, scope) ∈ table.entries := by
  rw [expected, get?]
  cases hfind : table.entries.find? (·.1 == kind) with
  | none =>
      refine iff_of_false (fun h => by cases h) fun hmem => ?_
      exact absurd (beq_self_eq_true kind) (List.find?_eq_none.mp hfind _ hmem)
  | some entry =>
      obtain ⟨other, found⟩ := entry
      have hmem := List.mem_of_find?_eq_some hfind
      obtain rfl : other = kind := by simpa using List.find?_some hfind
      constructor
      · intro h
        cases h
        exact hmem
      · intro hentry
        have hsame := List.inj_on_of_nodup_map table.distinct hmem hentry rfl
        cases hsame
        rfl

end ClassificationTable

/-! ## Labels -/

namespace ExpectedScope

variable {scope : ExpectedScope} {label : String}

/-- The label meets the expectation: it is the one expected, or one of the family. -/
inductive Allows : ExpectedScope → String → Prop
  | exact (label : String) : Allows (.exact label) label
  | family (stem ending : String) : Allows (.family stem) (stem ++ ending)

theorem allows_iff : scope.Allows label ↔ scope.accepts label = true := by
  cases scope with
  | exact expected =>
      rw [accepts, beq_iff_eq]
      constructor
      · rintro ⟨⟩
        rfl
      · rintro rfl
        exact .exact label
  | family stem =>
      rw [accepts, List.isPrefixOf_iff_prefix]
      constructor
      · rintro ⟨⟩
        rw [String.toList_append]
        exact List.prefix_append _ _
      · rintro ⟨ending, hending⟩
        have hlabel : label = stem ++ String.ofList ending := by
          rw [← String.toList_inj, String.toList_append, String.toList_ofList, hending]
        rw [hlabel]
        exact .family stem _

end ExpectedScope

namespace ScopedToken

/-- The label is the innermost scope of the token, and empty if the token has no scopes. -/
def Labelled (token : ScopedToken) (label : String) : Prop :=
  (∃ outer, token.scopes = outer ++ [label]) ∨ token.scopes = [] ∧ label = ""

theorem labelled_iff {token : ScopedToken} {label : String} :
    token.Labelled label ↔ token.innermost = label := by
  rw [innermost, innermost?]
  constructor
  · rintro (⟨outer, houter⟩ | ⟨hnil, rfl⟩)
    · rw [houter, List.getLast?_concat, Option.getD_some]
    · rw [hnil, List.getLast?_nil, Option.getD_none]
  · rcases List.eq_nil_or_concat token.scopes with hnil | ⟨outer, last, hlast⟩
    · rw [hnil, List.getLast?_nil, Option.getD_none]
      rintro rfl
      exact Or.inr ⟨hnil, rfl⟩
    · rw [List.concat_eq_append] at hlast
      rw [hlast, List.getLast?_concat, Option.getD_some]
      rintro rfl
      exact Or.inl ⟨outer, hlast⟩

end ScopedToken

/-! ## Comparing -/

/-- The tokens have the same ends, and the label meets what the table lists for the kind. -/
def Agrees (table : ClassificationTable) (actual : ScopedToken) (expected : Token) : Prop :=
  actual.start = expected.start ∧ actual.stop = expected.stop ∧
    ∃ scope label, (expected.kind, scope) ∈ table.entries ∧ actual.Labelled label ∧
      scope.Allows label

variable {table : ClassificationTable} {actuals : List ScopedToken} {expecteds : List Token}
  {actual : ScopedToken} {expected : Token}

/-- Agreement as the comparer checks it. -/
theorem agrees_iff : Agrees table actual expected ↔
    actual.start = expected.start ∧ actual.stop = expected.stop ∧
      ∃ scope, table.expected expected.kind = .ok scope ∧ scope.accepts actual.innermost = true := by
  simp only [Agrees, ScopedToken.labelled_iff, ExpectedScope.allows_iff,
    ClassificationTable.expected_ok_iff, exists_and_left, exists_eq_left']

theorem mismatch?_eq_none_iff {source : Text} {index : Nat} {scope : ExpectedScope}
    (hscope : table.expected expected.kind = .ok scope) :
    Comparison.mismatch? source index scope actual expected = none ↔
      Agrees table actual expected := by
  rw [agrees_iff, hscope]
  simp [Comparison.mismatch?, and_comm, and_left_comm]

theorem mismatches_of_agrees (h : List.Forall₂ (Agrees table) actuals expecteds) (source : Text)
    (index : Nat) : Comparison.mismatches source table index actuals expecteds = .ok [] := by
  induction h generalizing index with
  | nil => rfl
  | @cons actual expected _ _ hagrees _ ih =>
      obtain ⟨-, -, scope, hscope, -⟩ := agrees_iff.mp hagrees
      have hnone : Comparison.mismatch? source index scope actual expected = none :=
        (mismatch?_eq_none_iff hscope).mpr hagrees
      rw [Comparison.mismatches, hscope]
      simp only [bind, Except.bind, ih, hnone]
      rfl

/-- Streams that agree place by place pass the check. -/
theorem checkSame_of_agrees (h : List.Forall₂ (Agrees table) actuals expecteds) (source : Text) :
    (Comparison.mk source actuals expecteds table).checkSame = .ok () := by
  have hmismatches := mismatches_of_agrees h source 0
  rw [Comparison.checkSame, Comparison.checkCount, if_pos h.length_eq, Comparison.checkOffsets,
    hmismatches]
  rfl

/-- Streams of the same length without a place where they differ agree place by place. -/
theorem agrees_of_mismatches {source : Text} {index : Nat}
    (hlength : actuals.length = expecteds.length)
    (h : Comparison.mismatches source table index actuals expecteds = .ok []) :
    List.Forall₂ (Agrees table) actuals expecteds := by
  induction actuals generalizing index expecteds with
  | nil =>
      obtain rfl : expecteds = [] := List.length_eq_zero_iff.mp hlength.symm
      exact .nil
  | cons actual actuals ih =>
      cases expecteds with
      | nil => cases hlength
      | cons expected expecteds =>
          rw [Comparison.mismatches] at h
          simp only [bind_ok_iff, pure_ok_iff, List.append_eq_nil_iff, Option.toList_eq_nil_iff]
            at h
          obtain ⟨scope, hscope, _, hlater, hnone, rfl⟩ := h
          exact .cons ((mismatch?_eq_none_iff hscope).mp hnone) (ih (Nat.succ.inj hlength) hlater)

/-- Streams pass the check exactly if they agree place by place. -/
theorem checkSame_ok_iff {source : Text} :
    (Comparison.mk source actuals expecteds table).checkSame = .ok () ↔
      List.Forall₂ (Agrees table) actuals expecteds := by
  refine ⟨fun h => ?_, fun h => checkSame_of_agrees h source⟩
  obtain ⟨_, hcount, hoffsets⟩ := bind_ok_iff.mp h
  have hlength : actuals.length = expecteds.length := by
    by_contra hne
    rw [mapError_ok_iff, Comparison.checkCount, if_neg hne] at hcount
    cases hcount
  unfold Comparison.checkOffsets at hoffsets
  split at hoffsets
  · cases hoffsets
  next hnone => exact agrees_of_mismatches hlength hnone
  · cases hoffsets

/-- Under the standard table a unit agrees with a token if it fits it. -/
theorem agrees_iff_fits (htable : ClassificationTable.standard = .ok table) {unit : ScopedToken}
    {token : Token} : Agrees table unit token ↔ Bundled.Fits unit token := by
  have hget : table.get? token.kind =
      (ClassificationTable.standardEntries.find? (·.1 == token.kind)).map (.ofLabel ·.2) := by
    rw [ClassificationTable.get?, ClassificationTable.standard_ok htable, List.find?_map,
      Option.map_map]
    rfl
  rw [agrees_iff, Bundled.Fits, Bundled.accepts, ClassificationTable.expected, hget]
  cases ClassificationTable.standardEntries.find? (·.1 == token.kind) with
  | none => simp
  | some entry => simp

namespace Reconciler

/-- A line of items reconciles, with one token for each item on both sides. -/
theorem line_items (reconciler : Reconciler)
    (hgrammar : Bundled.grammar = .ok reconciler.grammar)
    (htable : ClassificationTable.standard = .ok reconciler.table)
    (hnormalizes : reconciler.normalizes = true) {text : Text} {tokens : List Token}
    (h : Items none 0 text tokens) :
    ∃ report, reconciler.line text = .ok report ∧ report.referenceTokens = tokens ∧
      List.Forall₂ (Agrees reconciler.table) report.grammarTokens tokens := by
  have hcompiled : reconciler.grammar = Bundled.compiled :=
    (Except.ok.inj (Bundled.grammar_eq.symm.trans hgrammar)).symm
  obtain ⟨merged, hmerged, hfits⟩ := Bundled.normalize_items h
  obtain ⟨document, hdocument, htokens⟩ := h.ofText
  have hagrees : List.Forall₂ (Agrees reconciler.table) merged tokens :=
    hfits.imp fun _ _ => (agrees_iff_fits htable).mpr
  have hsame := checkSame_of_agrees hagrees text
  refine ⟨⟨merged, tokens⟩, ?_, rfl, hagrees⟩
  rw [line, hcompiled, hnormalizes, hmerged, hdocument]
  simp only [if_true, Except.mapError, bind, Except.bind, htokens, hsame]
  rfl

/-- A comparison and a conjunction of atoms, with blanks only where they are needed. -/
theorem line_items_comparison :
    let tokens : List Token := [⟨.identifier, 0, 1⟩, ⟨.notEqual, 1, 3⟩, ⟨.numericLiteral, 3, 4⟩,
      ⟨.keywordAnd, 5, 8⟩, ⟨.textLiteral, 9, 12⟩]
    ∃ table report, ClassificationTable.standard = .ok table ∧
      line { grammar := Bundled.compiled, table }
        ['n', '<', '>', '1', ' ', 'a', 'n', 'd', ' ', '"', 'a', '"'] = .ok report ∧
      report.referenceTokens = tokens ∧
      List.Forall₂ (Agrees table) report.grammarTokens tokens := by
  intro tokens
  have hblank : AreBlanks [' '] := by simp [AreBlanks]
  have hnone : AreBlanks [] := fun _ hmem => by cases hmem
  have htext : Items (some .loose) 8 [' ', '"', 'a', '"'] (tokens.drop 4) :=
    .item hblank (fun hnil => by cases hnil) (.text (.char (by decide) .nil) (by decide))
      (.done hnone)
  have hand : Items (some .atom) 4 [' ', 'a', 'n', 'd', ' ', '"', 'a', '"'] (tokens.drop 3) :=
    @Items.item _ .loose 4 [' '] ['a', 'n', 'd'] _ _ _ hblank (fun hnil => by cases hnil)
      (@Item.reserved "and" _ (by decide)) htext
  have hnumber : Items (some .tight) 3 ['1', ' ', 'a', 'n', 'd', ' ', '"', 'a', '"']
      (tokens.drop 2) :=
    @Items.item _ .atom 3 [] ['1'] _ _ _ hnone (fun _ => by decide)
      (.number (@IsNumber.whole ['1'] [] ⟨by simp, by decide⟩ (Or.inl rfl))) hand
  have hoperator : Items (some .atom) 1 ['<', '>', '1', ' ', 'a', 'n', 'd', ' ', '"', 'a', '"']
      (tokens.drop 1) :=
    @Items.item _ .tight 1 [] ['<', '>'] _ _ _ hnone (fun _ => by decide)
      (@Item.tight "<>" _ (by decide) (by decide)) hnumber
  have hline : Items none 0 ['n', '<', '>', '1', ' ', 'a', 'n', 'd', ' ', '"', 'a', '"'] tokens :=
    @Items.item _ .atom 0 [] ['n'] _ _ _ hnone (fun _ _ hmem => by cases hmem)
      (@Item.identifier ['n'] [] (by decide) (by decide) (by decide) .nil) hoperator
  cases htable : ClassificationTable.standard with
  | error fault =>
      have hok : ClassificationTable.standard.isOk = true := by decide
      rw [htable] at hok
      cases hok
  | ok table =>
      obtain ⟨report, hreport, hagrees⟩ :=
        line_items { grammar := Bundled.compiled, table } Bundled.grammar_eq htable rfl hline
      exact ⟨table, report, rfl, hreport, hagrees⟩

end Reconciler

end TokenConcord
