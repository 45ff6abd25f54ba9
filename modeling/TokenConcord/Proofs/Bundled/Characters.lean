import TokenConcord.Proofs.Bundled.Compiled
import TokenConcord.Proofs.Lexing.Characters
import TokenConcord.Proofs.Pattern.CharSets

/-!
# Characters of the bundled grammar

The sets that the bundled grammar builds from the tables of the general categories are those
that the reference lexer tests for. Among ASCII characters they are letters, digits and the
underscore.
-/

namespace TokenConcord.Bundled

open Pattern Lexing CharSet

/-! ## Tables -/

set_option maxRecDepth 16000 in
theorem ascending_wordTables : ∀ table ∈ Unicode.wordTables, (ofRuns table).Ascending := by
  have h : ∀ table ∈ Unicode.wordTables, (ofRuns table).changes.IsChain (· < ·) := by
    with_unfolding_all decide
  exact fun table hmem => ascending_of_isChain (h table hmem)

theorem ascending_letters : ∀ table ∈ Unicode.letters, (ofRuns table).Ascending :=
  fun table hmem => ascending_wordTables table (by
    simp only [Unicode.wordTables, Unicode.alphabetics, List.mem_append]
    exact Or.inl (Or.inl (Or.inl (Or.inl hmem))))

theorem ascending_decimalNumber : (ofRuns Unicode.decimalNumber).Ascending :=
  ascending_wordTables _ (by simp [Unicode.wordTables])

theorem ascending_single (c : Char) : (single c).Ascending :=
  List.pairwise_pair.mpr (Nat.lt_succ_self _)

/-! ## Membership -/

theorem mem_single (c d : Char) : (single c).mem d = (d == c) := by
  rw [Bool.eq_iff_iff, beq_iff_eq]
  simp only [mem, holds, single, range, holdsFrom]
  constructor
  · intro h
    split at h
    · cases h
    · split at h
      · exact Char.toNat_inj.mp (by omega)
      · cases h
  · rintro rfl
    simp

theorem mem_between (first last c : Char) :
    (between first last).mem c = (decide (first.toNat ≤ c.toNat) && decide (c.toNat ≤ last.toNat)) := by
  simp only [mem, holds, between, range, holdsFrom]
  by_cases hfirst : c.toNat < first.toNat
  · simp [hfirst]
  · by_cases hlast : c.toNat ≤ last.toNat
    · simp [hfirst, hlast, Nat.lt_succ_of_le hlast, Nat.not_lt.mp hfirst]
    · simp [hfirst, hlast, mt Nat.lt_succ_iff.mp hlast]

theorem mem_identifierStart (c : Char) : identifierStart.mem c = isIdentifierStart c := by
  have hletters := ofTables_spec ascending_letters
  have hall : ∀ s ∈ [single '_', ofTables Unicode.letters], s.Ascending := by
    simp [ascending_single, hletters.1]
  rw [mem, identifierStart, (unions_spec hall).2]
  simp [hletters.2, isIdentifierStart, Unicode.isLetter, ← mem_single, mem]

theorem mem_identifierPart (c : Char) : identifierPart.mem c = isIdentifierPart c := by
  have hletters := ofTables_spec ascending_letters
  have hall : ∀ s ∈ [single '_', ofTables Unicode.letters, ofRuns Unicode.decimalNumber],
      s.Ascending := by
    simp [ascending_single, hletters.1, ascending_decimalNumber]
  rw [mem, identifierPart, (unions_spec hall).2]
  simp [hletters.2, isIdentifierPart, Unicode.isLetter, Unicode.isDecimalDigit, holds_ofRuns,
    ← mem_single, mem, Bool.or_assoc]

theorem mem_wordClass (c : Char) :
    wordClass.mem c = Unicode.coveredBy Unicode.wordTables c.toNat :=
  (ofTables_spec ascending_wordTables).2 c.toNat

theorem mem_wordClass_ascii {c : Char} (hc : c.toNat < 128) :
    wordClass.mem c = isAsciiPart c := by
  rw [mem_wordClass]
  refine forall_ascii (P := fun c => Unicode.coveredBy Unicode.wordTables c.toNat = isAsciiPart c)
    ?_ hc
  decide

end TokenConcord.Bundled
