import TokenConcord.Proofs.Grammar.WellFormed
import TokenConcord.Proofs.Outcome

/-!
# Defects of an artifact

What is wrong with an artifact that is not well formed: the checks that fail, in the order of the
rules. An artifact compiles if it is well formed, and otherwise the first failing check is reported.
-/

namespace TokenConcord

open Outcome

namespace Grammar

/-! ## Checks that fail -/

/-- What is wrong with a pattern. -/
def patternDefects (location pattern : String) : List GrammarError :=
  match Pattern.parse pattern.toList with
  | .ok _ => []
  | .error cause => [.invalidPattern location cause]

/-- What is wrong with the keys of groups, in their order. -/
def captureDefects (location : String) (captures : CaptureNames) : List GrammarError :=
  captures.flatMap fun (key, _) =>
    if IsCaptureKey key then [] else [.invalidCaptureKey location key]

/-- What is wrong with an include. -/
def includeDefects (names : List String) (location target : String) : List GrammarError :=
  if target = "$self" ∨ target = "$base" then []
  else if target.toList.head? = some '#' then
    let name := String.ofList target.toList.tail
    if name ∈ names then [] else [.unknownInclude location name]
  else [.unsupportedInclude location target]

mutual

/-- What is wrong with a rule. A pattern to match hides one to begin with, which hides an include,
and only a rule with two ends or one that has none of these is searched for patterns. -/
def ruleDefects (names : List String) (location : String) : RuleSource → List GrammarError
  | source@⟨_, _, _, _, _, _, _, _, patterns, _, _⟩ =>
      match source.matchPattern, source.beginPattern, source.includeTarget with
      | some pattern, _, _ =>
          patternDefects location pattern ++ captureDefects location source.captures
      | none, some opener, _ =>
          (if source.endPattern.isSome then [] else [.missingEnd location]) ++
            (patternDefects s!"{location}.begin" opener ++
              ((match source.endPattern with
                  | some closer => patternDefects s!"{location}.end" closer
                  | none => []) ++
                (captureDefects location (source.capturesFor source.beginCaptures) ++
                  (captureDefects location (source.capturesFor source.endCaptures) ++
                    patternsDefects names location 0 patterns))))
      | none, none, some target => includeDefects names location target
      | none, none, none =>
          (if patterns.isEmpty then [.emptyRule location] else []) ++
            patternsDefects names location 0 patterns

/-- What is wrong with the patterns of a rule from number `index` on. -/
def patternsDefects (names : List String) (location : String) (index : Nat) :
    List RuleSource → List GrammarError
  | [] => []
  | source :: sources =>
      (match pureInclude? source with
        | some target => includeDefects names s!"{location}.patterns[{index}]" target
        | none => ruleDefects names s!"{location}.patterns[{index}]" source) ++
        patternsDefects names location (index + 1) sources

end

end Grammar

/-- What is wrong with an artifact: first in the rules of the repository, referred to or not, and
then in the top-level patterns. -/
def Artifact.defects (artifact : Artifact) : List GrammarError :=
  artifact.repository.flatMap (fun (name, source) =>
    Grammar.ruleDefects artifact.names s!"repository.{name}" source) ++
  Grammar.patternsDefects artifact.names "grammar" 0 artifact.patterns

namespace Grammar

/-! ## What compiling reports -/

variable {names : List String}

theorem compilePattern_reports (location pattern : String) :
    Reports (compilePattern location pattern) (patternDefects location pattern) := by
  unfold compilePattern patternDefects
  cases Pattern.parse pattern.toList <;> rfl

theorem compileCaptures_reports (location : String) (captures : CaptureNames) :
    Reports (compileCaptures location captures) (captureDefects location captures) := by
  unfold compileCaptures
  refine Reports.map (Reports.mapM fun (key, name) => ?_)
  have hkey := captureIndex?_isSome_iff key
  dsimp only
  cases hindex : captureIndex? key with
  | none =>
      rw [hindex] at hkey
      rw [if_neg fun hvalid => by cases hkey.mpr hvalid]
      rfl
  | some index =>
      rw [hindex] at hkey
      rw [if_pos (hkey.mp rfl)]
      rfl

theorem resolve_reports (location target : String) :
    Reports (resolve names location target) (includeDefects names location target) := by
  unfold resolve includeDefects
  split
  · rfl
  · split
    next name htext =>
      rw [htext, List.head?_cons, List.tail_cons, if_pos rfl]
      change Reports _ (if String.ofList name ∈ names then _ else _)
      split
      next index hindex =>
        rw [if_pos (List.isSome_idxOf?.mp (Option.isSome_of_eq_some hindex))]
        rfl
      next hindex =>
        rw [if_neg (List.idxOf?_eq_none_iff.mp hindex)]
        rfl
    next hother =>
      have hhead : target.toList.head? ≠ some '#' := by
        intro hhead
        obtain ⟨name, htext⟩ := List.head?_eq_some_iff.mp hhead
        exact hother name htext
      rw [if_neg hhead]
      rfl

mutual

theorem compileRule_reports : ∀ (source : RuleSource) (location : String) (next : Nat),
    Reports (compileRule names location next source) (ruleDefects names location source)
  | ⟨name, contentName, matchPattern, beginPattern, endPattern, captures, beginCaptures,
      endCaptures, patterns, includeTarget, applyEndPatternLast⟩, location, next => by
    have hpatterns := compilePatterns_reports patterns location 0 next
    rw [compileRule, ruleDefects]
    dsimp only
    cases matchPattern with
    | some pattern =>
        refine (compilePattern_reports location pattern).bind fun _ _ => ?_
        exact (compileCaptures_reports location captures).map
    | none =>
        cases beginPattern with
        | some opener =>
            -- Without an end pattern nothing else is looked at, and nothing else is reported.
            cases endPattern with
            | none => rfl
            | some closer =>
                refine (compilePattern_reports _ opener).bind fun _ _ => ?_
                refine (compilePattern_reports _ closer).bind fun _ _ => ?_
                refine (compileCaptures_reports location _).bind fun _ _ => ?_
                refine (compileCaptures_reports location _).bind fun _ _ => ?_
                exact hpatterns.map
        | none =>
            cases includeTarget with
            | some target => exact (resolve_reports location target).map
            | none =>
                dsimp only
                split
                · rfl
                · exact hpatterns.map

theorem compilePatterns_reports : ∀ (sources : List RuleSource) (location : String)
    (index next : Nat),
    Reports (compilePatterns names location index next sources)
      (patternsDefects names location index sources)
  | [], location, index, next => by
    rw [compilePatterns, patternsDefects]
    rfl
  | source :: sources, location, index, next => by
    rw [compilePatterns, patternsDefects]
    dsimp only
    cases pureInclude? source with
    | some target =>
        refine (resolve_reports _ target).bind fun _ _ => ?_
        exact (compilePatterns_reports sources location (index + 1) next).map
    | none =>
        refine (compileRule_reports source _ next).bind fun compiled _ => ?_
        exact (compilePatterns_reports sources location (index + 1) _).map

end

theorem compileRepository_reports (entries : List (String × RuleSource)) (next : Nat) :
    Reports (compileRepository names next entries) (entries.flatMap fun (name, source) =>
      ruleDefects names s!"repository.{name}" source) := by
  induction entries generalizing next with
  | nil => rfl
  | cons entry entries ih =>
      obtain ⟨name, source⟩ := entry
      rw [compileRepository, List.flatMap_cons]
      exact (compileRule_reports source _ next).bind fun compiled _ => (ih _).map

theorem compile_reports (artifact : Artifact) : Reports (compile artifact) artifact.defects := by
  unfold compile
  refine (compileRepository_reports artifact.repository _).bind fun compiled _ => ?_
  exact (compilePatterns_reports artifact.patterns "grammar" 0 _).map

/-! ## Defects of well-formed rules -/

theorem patternDefects_eq_nil {location pattern : String} :
    patternDefects location pattern = [] ↔ IsPattern pattern := by
  unfold patternDefects IsPattern
  cases Pattern.parse pattern.toList with
  | ok parsed => exact iff_of_true rfl ⟨parsed, rfl⟩
  | error cause => exact iff_of_false (List.cons_ne_nil _ _) fun ⟨_, h⟩ => by cases h

theorem captureDefects_eq_nil {location : String} {captures : CaptureNames} :
    captureDefects location captures = [] ↔ captures.WellFormed := by
  rw [captureDefects, List.flatMap_eq_nil_iff]
  refine forall₂_congr fun entry _ => ?_
  dsimp only
  split
  next hkey => exact iff_of_true rfl hkey
  next hkey => exact iff_of_false (List.cons_ne_nil _ _) hkey

theorem includeDefects_eq_nil {location target : String} :
    includeDefects names location target = [] ↔ IsIncluded names target := by
  have hnamed : ∀ name : String, target = "#" ++ name ↔ target.toList = '#' :: name.toList := by
    intro name
    rw [← String.toList_inj, String.toList_append]
    rfl
  unfold includeDefects IsIncluded
  split
  next hwhole => exact iff_of_true rfl (or_assoc.mp (Or.inl hwhole))
  next hwhole =>
    rw [← or_assoc, or_iff_right hwhole]
    simp only [hnamed]
    split
    next hhead =>
      obtain ⟨name, htext⟩ := List.head?_eq_some_iff.mp hhead
      rw [htext, List.tail_cons]
      split
      next hmem => exact iff_of_true rfl ⟨_, hmem, by rw [String.toList_ofList]⟩
      next hmem =>
        refine iff_of_false (List.cons_ne_nil _ _) ?_
        rintro ⟨other, hother, heq⟩
        rw [(List.cons.inj heq).2, String.ofList_toList] at hmem
        exact hmem hother
    next hhead =>
      refine iff_of_false (List.cons_ne_nil _ _) ?_
      rintro ⟨name, -, htext⟩
      exact hhead (List.head?_eq_some_iff.mpr ⟨_, htext⟩)

mutual

theorem ruleDefects_eq_nil : ∀ (source : RuleSource) (location : String),
    ruleDefects names location source = [] ↔ source.WellFormed names
  | ⟨name, contentName, matchPattern, beginPattern, endPattern, captures, beginCaptures,
      endCaptures, patterns, includeTarget, applyEndPatternLast⟩, location => by
    have hpatterns := patternsDefects_eq_nil patterns location 0
    rw [ruleDefects]
    dsimp only
    cases matchPattern with
    | some pattern =>
        rw [RuleSource.wellFormed_single_iff rfl, List.append_eq_nil_iff, patternDefects_eq_nil,
          captureDefects_eq_nil]
    | none =>
        cases beginPattern with
        | some opener =>
            rw [RuleSource.wellFormed_span_iff rfl rfl]
            cases endPattern with
            | none =>
                refine iff_of_false (List.cons_ne_nil _ _) ?_
                rintro ⟨closer, hend, -⟩
                cases hend
            | some closer =>
                simp only [List.append_eq_nil_iff, patternDefects_eq_nil, captureDefects_eq_nil,
                  hpatterns]
                constructor
                · exact fun ⟨_, hrest⟩ => ⟨closer, rfl, hrest⟩
                · rintro ⟨_, hend, hrest⟩
                  cases hend
                  exact ⟨rfl, hrest⟩
        | none =>
            cases includeTarget with
            | some target =>
                rw [RuleSource.wellFormed_redirect_iff rfl rfl rfl]
                exact includeDefects_eq_nil
            | none =>
                rw [RuleSource.wellFormed_group_iff rfl rfl rfl]
                dsimp only
                rw [List.append_eq_nil_iff, hpatterns]
                cases patterns <;> simp

theorem patternsDefects_eq_nil : ∀ (sources : List RuleSource) (location : String) (index : Nat),
    patternsDefects names location index sources = [] ↔
      ∀ source ∈ sources, source.Acceptable names
  | [], location, index => by
    rw [patternsDefects]
    exact iff_of_true rfl fun source hmem => absurd hmem List.not_mem_nil
  | source :: sources, location, index => by
    have hrule := ruleDefects_eq_nil source
    rw [patternsDefects, List.append_eq_nil_iff, List.forall_mem_cons, patternsDefects_eq_nil]
    refine and_congr_left' ?_
    cases hpure : pureInclude? source with
    | some target =>
        rw [RuleSource.acceptable_reference_iff hpure]
        exact includeDefects_eq_nil
    | none =>
        rw [RuleSource.acceptable_rule_iff hpure]
        exact hrule _

end

theorem defects_eq_nil {artifact : Artifact} : artifact.defects = [] ↔ artifact.WellFormed := by
  rw [Artifact.defects, List.append_eq_nil_iff, List.flatMap_eq_nil_iff, patternsDefects_eq_nil]
  simp only [ruleDefects_eq_nil]
  exact ⟨fun ⟨hrepository, hpatterns⟩ => ⟨hrepository, hpatterns⟩,
    fun h => ⟨h.repository, h.patterns⟩⟩

/-- An artifact compiles just when it is well formed: when every rule of its repository, referred to
or not, and every top-level pattern has what it needs. Otherwise some checks fail, and the first of
them is reported. -/
theorem compile_defects (artifact : Artifact) :
    ((∃ grammar, compile artifact = .ok grammar) ↔ artifact.WellFormed) ∧
    (artifact.WellFormed ↔ artifact.defects = []) ∧
    ∀ fault, compile artifact = .error fault ↔ artifact.defects.head? = some fault := by
  have hreports := compile_reports artifact
  exact ⟨hreports.isOk_iff.trans defects_eq_nil, defects_eq_nil.symm,
    fun fault => hreports.error_iff⟩

/-- A rule that nothing refers to is checked, and before the top-level patterns. -/
example : Artifact.defects
    { scopeName := "source", patterns := [{}], repository := [("Unused", {})] } =
      [.emptyRule "repository.Unused", .emptyRule "grammar.patterns[0]"] := by
  decide

end Grammar

end TokenConcord
