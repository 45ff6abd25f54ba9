import Mathlib.Data.Nat.Digits.Defs
import TokenConcord.Grammar.Compile

/-!
# Well-formed artifacts

What a rule has to have, the names under which groups are captured, and the rules that an include
may name.
-/

namespace TokenConcord

/-! ## Well-formed rules -/

/-- The text is written as a pattern. -/
def IsPattern (text : String) : Prop := ∃ pattern, Pattern.parse text.toList = .ok pattern

/-- The key is a number of at most 64 bits: decimal digits, perhaps behind a plus sign. -/
def IsCaptureKey (key : String) : Prop :=
  ∃ sign digits : Text, key.toList = sign ++ digits ∧ (sign = [] ∨ sign = ['+']) ∧
    digits ≠ [] ∧ (∀ c ∈ digits, c.isDigit = true) ∧
    Nat.ofDigits 10 (digits.reverse.map fun c => c.toNat - '0'.toNat) < 2 ^ 64

/-- All groups are named by a key that is a number. -/
def CaptureNames.WellFormed (captures : CaptureNames) : Prop :=
  ∀ entry ∈ captures, IsCaptureKey entry.1

/-- The target is the grammar itself or one of the rules with these names. -/
def IsIncluded (names : List String) (target : String) : Prop :=
  target = "$self" ∨ target = "$base" ∨ ∃ name ∈ names, target = "#" ++ name

namespace RuleSource

/-- The groups named at one end of a rule, which are those of the whole rule unless that end has its
own. -/
def capturesFor (source : RuleSource) (own : CaptureNames) : CaptureNames :=
  if own.isEmpty then source.captures else own

variable (names : List String)

mutual

/-- The rule has all that it needs, where the repository has rules with these names. What a pattern
to match, a pattern to begin with or an include leaves unread does not matter. -/
inductive WellFormed : RuleSource → Prop
  | single {source : RuleSource} {pattern : String} :
      source.matchPattern = some pattern → IsPattern pattern →
      source.captures.WellFormed → WellFormed source
  | span {source : RuleSource} {opener closer : String} :
      source.matchPattern = none → source.beginPattern = some opener →
      source.endPattern = some closer → IsPattern opener → IsPattern closer →
      (source.capturesFor source.beginCaptures).WellFormed →
      (source.capturesFor source.endCaptures).WellFormed →
      (∀ inner ∈ source.patterns, Acceptable inner) → WellFormed source
  | redirect {source : RuleSource} {target : String} :
      source.matchPattern = none → source.beginPattern = none →
      source.includeTarget = some target → IsIncluded names target → WellFormed source
  | group {source : RuleSource} :
      source.matchPattern = none → source.beginPattern = none → source.includeTarget = none →
      source.patterns ≠ [] → (∀ inner ∈ source.patterns, Acceptable inner) → WellFormed source

/-- The entry of a list of patterns is nothing but an include of a rule that there is, or a rule
that has all that it needs. -/
inductive Acceptable : RuleSource → Prop
  | reference {source : RuleSource} {target : String} :
      Grammar.pureInclude? source = some target → IsIncluded names target → Acceptable source
  | rule {source : RuleSource} :
      Grammar.pureInclude? source = none → WellFormed source → Acceptable source

end

variable {names} {source : RuleSource} {pattern opener target : String}

theorem wellFormed_single_iff (hmatch : source.matchPattern = some pattern) :
    source.WellFormed names ↔ IsPattern pattern ∧ source.captures.WellFormed := by
  constructor
  · intro h
    cases h with
    | single hother hpattern hcaptures =>
        cases hmatch.symm.trans hother
        exact ⟨hpattern, hcaptures⟩
    | span hnone | redirect hnone | group hnone => cases hmatch.symm.trans hnone
  · exact fun ⟨hpattern, hcaptures⟩ => .single hmatch hpattern hcaptures

theorem wellFormed_span_iff (hmatch : source.matchPattern = none)
    (hbegin : source.beginPattern = some opener) :
    source.WellFormed names ↔ ∃ closer, source.endPattern = some closer ∧ IsPattern opener ∧
      IsPattern closer ∧ (source.capturesFor source.beginCaptures).WellFormed ∧
      (source.capturesFor source.endCaptures).WellFormed ∧
      ∀ inner ∈ source.patterns, inner.Acceptable names := by
  constructor
  · intro h
    cases h with
    | single hother => cases hmatch.symm.trans hother
    | span _ hother hend hopener hcloser hbegins hends hpatterns =>
        cases hbegin.symm.trans hother
        exact ⟨_, hend, hopener, hcloser, hbegins, hends, hpatterns⟩
    | redirect _ hnone | group _ hnone => cases hbegin.symm.trans hnone
  · rintro ⟨closer, hend, hopener, hcloser, hbegins, hends, hpatterns⟩
    exact .span hmatch hbegin hend hopener hcloser hbegins hends hpatterns

theorem wellFormed_redirect_iff (hmatch : source.matchPattern = none)
    (hbegin : source.beginPattern = none) (hinclude : source.includeTarget = some target) :
    source.WellFormed names ↔ IsIncluded names target := by
  constructor
  · intro h
    cases h with
    | single hother => cases hmatch.symm.trans hother
    | span _ hother => cases hbegin.symm.trans hother
    | redirect _ _ hother htarget =>
        cases hinclude.symm.trans hother
        exact htarget
    | group _ _ hnone => cases hinclude.symm.trans hnone
  · exact .redirect hmatch hbegin hinclude

theorem wellFormed_group_iff (hmatch : source.matchPattern = none)
    (hbegin : source.beginPattern = none) (hinclude : source.includeTarget = none) :
    source.WellFormed names ↔
      source.patterns ≠ [] ∧ ∀ inner ∈ source.patterns, inner.Acceptable names := by
  constructor
  · intro h
    cases h with
    | single hother => cases hmatch.symm.trans hother
    | span _ hother => cases hbegin.symm.trans hother
    | redirect _ _ hother => cases hinclude.symm.trans hother
    | group _ _ _ hne hpatterns => exact ⟨hne, hpatterns⟩
  · exact fun ⟨hne, hpatterns⟩ => .group hmatch hbegin hinclude hne hpatterns

theorem acceptable_reference_iff (hpure : Grammar.pureInclude? source = some target) :
    source.Acceptable names ↔ IsIncluded names target := by
  constructor
  · intro h
    cases h with
    | reference hother htarget =>
        cases hpure.symm.trans hother
        exact htarget
    | rule hnone => cases hpure.symm.trans hnone
  · exact .reference hpure

theorem acceptable_rule_iff (hpure : Grammar.pureInclude? source = none) :
    source.Acceptable names ↔ source.WellFormed names := by
  constructor
  · intro h
    cases h with
    | reference hother => cases hpure.symm.trans hother
    | rule _ hrule => exact hrule
  · exact .rule hpure

end RuleSource

/-- Names of the rules in the repository. -/
def Artifact.names (artifact : Artifact) : List String := artifact.repository.map (·.1)

/-- All rules of the repository and all top-level patterns have what they need. -/
structure Artifact.WellFormed (artifact : Artifact) : Prop where
  repository : ∀ entry ∈ artifact.repository, entry.2.WellFormed artifact.names
  patterns : ∀ source ∈ artifact.patterns, source.Acceptable artifact.names

namespace Grammar

/-! ## Capture keys -/

theorem digitsValue_eq (digits : Text) :
    digitsValue digits = Nat.ofDigits 10 (digits.reverse.map fun c => c.toNat - '0'.toNat) := by
  rw [digitsValue, Nat.ofDigits_eq_foldr, List.foldr_map, List.foldr_reverse]
  congr 1
  funext value c
  rw [Nat.add_comm, Nat.mul_comm]
  rfl

theorem captureIndex?_isSome_iff (key : String) :
    (captureIndex? key).isSome = true ↔ IsCaptureKey key := by
  have hvalid : ∀ digits : Text, (if !digits.isEmpty && digits.all Char.isDigit &&
      digitsValue digits < Nat.pow 2 64 then some (digitsValue digits) else none).isSome = true ↔
      digits ≠ [] ∧ (∀ c ∈ digits, c.isDigit = true) ∧
        Nat.ofDigits 10 (digits.reverse.map fun c => c.toNat - '0'.toNat) < 2 ^ 64 := by
    intro digits
    rw [digitsValue_eq]
    simp [and_assoc]
  unfold captureIndex? IsCaptureKey
  dsimp only
  rw [hvalid]
  constructor
  · intro h
    split at h
    next digits hkey => exact ⟨['+'], digits, hkey, Or.inr rfl, h⟩
    next => exact ⟨[], key.toList, rfl, Or.inl rfl, h⟩
  · rintro ⟨sign, digits, hkey, rfl | rfl, hne, hdigits, hvalue⟩
    · rw [List.nil_append] at hkey
      -- Digits do not start with a plus sign.
      have hplain : ∀ rest, key.toList ≠ '+' :: rest := by
        intro rest heq
        have hplus := hdigits '+' (hkey ▸ heq ▸ List.mem_cons_self)
        exact absurd hplus (by decide)
      split
      next rest heq => exact absurd heq (hplain rest)
      next =>
        rw [hkey]
        exact ⟨hne, hdigits, hvalue⟩
    · rw [hkey]
      exact ⟨hne, hdigits, hvalue⟩

instance : DecidablePred IsCaptureKey :=
  fun key => decidable_of_iff _ (captureIndex?_isSome_iff key)

end Grammar

end TokenConcord
