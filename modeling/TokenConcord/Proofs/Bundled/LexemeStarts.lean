import TokenConcord.Proofs.Bundled.FirstRule
import TokenConcord.Proofs.Lexing.Items

/-!
# Where lexemes start

Wherever a lexeme starts, code goes on with some rule, whatever stands behind the lexeme. Three
lexemes alone can be passed over: a closing bracket outside of records, the hash sign of a keyword
that a word goes on with, and a quoted identifier that is not closed.
-/

namespace TokenConcord

namespace Pattern

open Attempt

variable {β : Type} {shared : Bool} {turns : List Turn} {captures : Captures}
  {next : Continuation β} {found : β}

/-- An optional part that finds nothing is passed over, where it can be gone on whatever was
visited. -/
theorem yields_run_optional_skip {p : Pattern} {cursor : Cursor}
    (hp : ∀ shared turns (next' : Continuation β) result,
      ¬ (p.run shared turns cursor captures next').Finds result)
    (h : ∀ visited, (next cursor captures visited).1 = some found) :
    ((bounded 0 1 p true).run shared turns cursor captures next).Yields cursor.remaining
      [.copy 0 :: .right :: turns] found := by
  rw [run, runTimes, runUpTo]
  exact Yields.onceIf (.orElse_skip (hp _ _ _) h) List.not_mem_nil

/-- A pattern that does not match the empty text consumes something where it matches. -/
theorem nonEmptyAt_of_nullable {p : Pattern} (hp : p.nullable = false) {front text : Text}
    {result : Match} (h : p.matchAt (.between front text) = some result) :
    p.nonEmptyAt (.between front text) = some result := by
  obtain ⟨u, rest, rfl, hreads, hstart, hstop⟩ := matchAt_reads h
  have hu : u ≠ [] := by
    rintro rfl
    rw [hreads.nullable] at hp
    cases hp
  have hwidth := Text.width_pos hu
  rw [nonEmptyAt, h, Option.filter_some, if_pos]
  simp [Match.nonEmpty, hstart, hstop, hwidth]

end Pattern

namespace Bundled

open Pattern Attempt Grammar Lexing

variable {frame : Frame} {front text u rest digits' : Text} {lexeme : Lexeme} {length : Nat}
  {c d : Char}

/-! ## Fractions with anything behind them -/

theorem digits_reads (h : digits.Reads front u rest) : AreDigits u := by
  refine ⟨?_, fun c hmem => ?_⟩
  · rintro rfl
    have hnull := h.nullable
    cases hnull
  · rw [← mem_digit]
    exact h.mentions c hmem

theorem exponent_reads (h : exponent.Reads front u rest) : IsExponent u := by
  obtain ⟨_, _, rfl, ⟨mark, rfl, hmark⟩, _, digits', rfl, ⟨count, _, hcount, hsign⟩, hreads⟩ := h
  have hdigits := digits_reads hreads
  cases count with
  | zero =>
      obtain rfl := hsign
      exact .unsigned (mem_pair.mp hmark) hdigits
  | succ count =>
      obtain rfl : count = 0 := by omega
      obtain ⟨_, _, rfl, ⟨sign, rfl, hsign⟩, rfl⟩ := hsign
      exact .signed (mem_pair.mp hmark) (mem_pair.mp hsign) hdigits

/-- A fraction is found at a point with a digit behind it. -/
theorem matchAt_fraction_start (hd : d.isDigit = true) (text : Text) :
    ∃ result, fraction.matchAt (.between front ('.' :: d :: text)) = some result := by
  have hdigit : AreDigits [d] := ⟨List.cons_ne_nil _ _, by simpa using hd⟩
  obtain ⟨more, rest, rfl, hdigits, hrest⟩ := hdigit.extend text
  -- Something like an exponent that is none (`.5e+`) is left behind the fraction.
  by_cases hexponent : ∃ u later, rest = u ++ later ∧ ∃ front', exponent.Reads front' u later
  · obtain ⟨u, later, rfl, front', hreads⟩ := hexponent
    obtain ⟨further, last, rfl, hexponent, hlast⟩ := (exponent_reads hreads).extend later
    rw [← List.append_assoc u] at hrest ⊢
    refine ⟨⟨front.width, .between (front ++ ['.'] ++ ([d] ++ more) ++ (u ++ further)) last, []⟩,
      matchAt_of_yields [] (yields_run_point hdigits hrest fun shared => ?_)⟩
    refine yields_run_optional (yields_run_exponent hexponent hlast ?_) List.not_mem_nil
    exact fun _ _ => rfl
  · refine ⟨⟨front.width, .between (front ++ ['.'] ++ ([d] ++ more)) rest, []⟩,
      matchAt_of_yields [] (yields_run_point hdigits hrest fun shared => ?_)⟩
    refine yields_run_optional_skip (fun shared turns next' result hfinds => ?_) fun _ => rfl
    obtain ⟨u, later, _, heq, hreads, -⟩ := run_follows exponent _ _ hfinds
    exact hexponent ⟨u, later, heq, _, hreads⟩

/-! ## Rules that apply -/

theorem nullable_codeRules : ∀ rule ∈ codeRules, rule.2.nullable = false := by decide

/-- Where a rule of code applies, something is found. -/
theorem exists_foundAt_of_matchAt (h : IsCode frame) {rule : RuleId × Pattern}
    (hrule : rule ∈ codeRules) {result : Match}
    (hmatch : rule.2.matchAt (.between front text) = some result) :
    ∃ found, compiled.foundAt frame (.between front text) = some found := by
  have haim : Aim.rule rule.1 rule.2 ∈ compiled.aims frame := by
    have hcode : Aim.rule rule.1 rule.2 ∈ codeAims := List.mem_map.mpr ⟨rule, hrule, rfl⟩
    rcases aims_code h with haims | haims
    · rwa [haims]
    · rw [haims]
      exact List.mem_cons_of_mem _ hcode
  rw [← Option.isSome_iff_exists, foundAt, List.findSome?_isSome_iff]
  refine ⟨_, haim, ?_⟩
  rw [Aim.at?, nonEmptyAt_of_nullable (nullable_codeRules rule hrule) hmatch]
  rfl

theorem exists_foundAt_digit (h : IsCode frame) (hc : c.isDigit = true) :
    ∃ found, compiled.foundAt frame (.between front (c :: text)) = some found := by
  have hdigit : AreDigits [c] := ⟨List.cons_ne_nil _ _, by simpa using hc⟩
  obtain ⟨more, rest, rfl, hdigits, hrest⟩ := hdigit.extend text
  have hrule : (8, digits) ∈ codeRules := by simp [codeRules]
  exact exists_foundAt_of_matchAt h hrule (matchAt_digits hdigits hrest)

/-- The rules for operators and punctuation, with the one that opens records. -/
def fixedRules : List (RuleId × List String) := operatorRules ++ [(19, ["["])]

theorem exists_fixedRule : ∀ entry ∈ fixedLexemes,
    entry.1.toList.head? ∉ [some ']', some '#'] → ∃ rule ∈ fixedRules, entry.1 ∈ rule.2 := by
  decide

theorem mem_codeRules_fixed : ∀ rule ∈ fixedRules, rule = (34, ["+", "-", "*", "/"]) ∨
    (rule.1, oneOf rule.2) ∈ codeRules := by
  with_unfolding_all decide

/-- Where a fixed lexeme starts, the rule that lists it applies. -/
theorem exists_foundAt_fixed (h : IsCode frame) {word : String}
    {rule : RuleId × List String} (hrule : rule ∈ fixedRules) (hword : word ∈ rule.2)
    (hline : word.toList <+: text) :
    ∃ found, compiled.foundAt frame (.between front text) = some found := by
  obtain ⟨first, hfirst⟩ : ∃ first, rule.2.find? (·.toList.isPrefixOf text) = some first := by
    rw [← Option.isSome_iff_exists, List.find?_isSome]
    exact ⟨word, hword, List.isPrefixOf_iff_prefix.mpr hline⟩
  have hbegins := List.find?_some hfirst
  obtain ⟨rest, rfl⟩ := List.isPrefixOf_iff_prefix.mp hbegins
  have hmatch := @matchAt_oneOf_find front rest first rule.2 hfirst
  rcases mem_codeRules_fixed rule hrule with rfl | hcode
  · rw [← matchAt_arithmetic] at hmatch
    have hrule : (34, .set arithmetic) ∈ codeRules := by simp [codeRules]
    exact exists_foundAt_of_matchAt h hrule hmatch
  · exact exists_foundAt_of_matchAt h hcode hmatch

/-- Where a lexeme starts, code goes on with some rule, unless the lexeme is a closing bracket or
starts with a hash sign. -/
theorem exists_foundAt (h : IsCode frame)
    (hfirst : firstLexeme? (c :: text) = some (lexeme, length)) (hbracket : c ≠ ']')
    (hhash : c ≠ '#') : ∃ found, compiled.foundAt frame (.between front (c :: text)) = some found := by
  by_cases hopens : Opens (c :: text)
  · obtain ⟨opener, hmem, inner, hinner⟩ := hopens
    have hc : c = '"' ∨ c = '#' ∨ c = '/' := by
      simp only [openers, List.mem_cons, List.not_mem_nil, or_false] at hmem
      rcases hmem with rfl | rfl | rfl | rfl <;> simp [← (List.cons.inj hinner).1]
    rcases hc with rfl | rfl | rfl
    · have hrule : (20, literal ['"']) ∈ codeRules := by simp [codeRules]
      exact exists_foundAt_of_matchAt h hrule (@matchAt_literal front text ['"'])
    · exact absurd rfl hhash
    · -- Whether it opens a comment or not, a slash is an operator at least.
      have hrule : (34, ["+", "-", "*", "/"]) ∈ fixedRules := by simp [fixedRules, operatorRules]
      exact @exists_foundAt_fixed _ _ _ h "/" _ hrule (by simp) ⟨text, rfl⟩
  · rw [firstLexeme?_plain hopens] at hfirst
    split at hfirst
    next hstart =>
      have hrule : (6, identifierPattern) ∈ codeRules := by simp [codeRules]
      exact exists_foundAt_of_matchAt h hrule (matchAt_identifier hstart text)
    next =>
      split at hfirst
      next hhex =>
        obtain rfl := eq_zero_of_hexLength hhex
        exact exists_foundAt_digit h (by decide)
      next =>
        split at hfirst
        next hnumber =>
          -- The rule for digits applies to whole numbers and floats alike.
          rcases start_of_numberLength hnumber with hdigit | ⟨d, more, rfl, rfl, hd⟩
          · exact exists_foundAt_digit h hdigit
          · obtain ⟨result, hmatch⟩ := @matchAt_fraction_start front d hd more
            have hrule : (2, fraction) ∈ codeRules := by simp [codeRules]
            exact exists_foundAt_of_matchAt h hrule hmatch
        next =>
          obtain ⟨entry, hfind, -⟩ := Option.map_eq_some_iff.mp hfirst
          have hbegins := List.find?_some hfind
          have hline := List.isPrefixOf_iff_prefix.mp hbegins
          have hhead : entry.1.toList.head? ∉ [some ']', some '#'] := by
            cases hword : entry.1.toList with
            | nil => simp
            | cons d more =>
                rw [hword] at hline
                simp [(List.cons_prefix_cons.mp hline).1, hbracket, hhash]
          obtain ⟨rule, hrule, hword⟩ := exists_fixedRule entry (List.mem_of_find?_eq_some hfind) hhead
          exact exists_foundAt_fixed h hrule hword hline

/-! ## Lexemes that code can pass over -/

/-- The fixed lexemes that are keywords behind a hash sign. -/
def hashLexemes : List (String × Kind) :=
  fixedLexemes.filter (·.1.toList.head? = some '#')

/-- Kinds of the keywords behind a hash sign. -/
def hashKinds : List Kind := hashLexemes.map (·.2)

/-- A keyword behind a hash sign is a word. -/
theorem isAsciiStart_hashLexemes : ∀ entry ∈ hashLexemes,
    entry.1.toList.tail.head?.any isAsciiStart = true := by
  decide

theorem firstLexeme?_bracket (text : Text) :
    firstLexeme? (']' :: text) = some (.simple .rightBracket, 1) := by
  have hstop : StopsAt (extensions ("]" : String).toList).contains text := by
    have hnone : extensions ("]" : String).toList = [] := by decide
    rw [hnone]
    exact fun _ _ => rfl
  exact @firstLexeme?_fixed text "]" .rightBracket (by decide) hstop

/-- Without a quote behind it a hash sign starts a keyword. -/
theorem firstLexeme?_hashKeyword (hquote : ¬ QuoteNext text)
    (hfirst : firstLexeme? ('#' :: text) = some (lexeme, length)) :
    (∃ d more, text = d :: more ∧ isAsciiStart d = true) ∧ lexeme.kind ∈ hashKinds := by
  have hopens : ¬ Opens ('#' :: text) := by
    rintro ⟨opener, hmem, inner, hinner⟩
    simp only [openers, List.mem_cons, List.not_mem_nil, or_false] at hmem
    rcases hmem with rfl | rfl | rfl | rfl
    · cases hinner
    · apply hquote
      rw [← (List.cons.inj hinner).2]
      rfl
    · cases hinner
    · cases hinner
  have hnumber : numberLength ('#' :: text) = 0 := by
    by_contra hne
    rcases start_of_numberLength hne with hdigit | ⟨_, _, hpoint, -⟩
    · cases hdigit
    · cases hpoint
  have hhex : hexLength ('#' :: text) = 0 := by
    by_contra hne
    cases eq_zero_of_hexLength hne
  rw [firstLexeme?_plain hopens, hhex, hnumber] at hfirst
  obtain ⟨⟨word, kind⟩, hfind, hentry⟩ := Option.map_eq_some_iff.mp hfirst
  cases hentry
  have hbegins := List.find?_some hfind
  obtain ⟨rest, hline⟩ := List.isPrefixOf_iff_prefix.mp hbegins
  have hmem := List.mem_of_find?_eq_some hfind
  obtain ⟨c, tail, hword⟩ := List.exists_cons_of_ne_nil (fixedLexemes_ne_nil _ hmem)
  rw [hword] at hline
  obtain ⟨rfl, rfl⟩ := List.cons.inj hline
  have hkeyword : (word, kind) ∈ hashLexemes := List.mem_filter.mpr ⟨hmem, by simp [hword]⟩
  have htail := isAsciiStart_hashLexemes _ hkeyword
  rw [hword, List.tail_cons] at htail
  refine ⟨?_, List.mem_map_of_mem hkeyword⟩
  cases tail with
  | nil => cases htail
  | cons d tail => exact ⟨d, tail ++ rest, rfl, htail⟩

/-- Where a lexeme starts and code goes on with no rule, the lexeme is a closing bracket, a quoted
identifier that is not closed, or a keyword behind a hash sign. -/
theorem passed_over (h : IsCode frame)
    (hfirst : firstLexeme? (c :: text) = some (lexeme, length))
    (hnone : compiled.foundAt frame (.between front (c :: text)) = none) :
    lexeme = .simple .rightBracket ∨ lexeme = .quotedIdentifier .opened ∨
      (c = '#' ∧ (∃ d more, text = d :: more ∧ isAsciiStart d = true) ∧
        lexeme.kind ∈ hashKinds) := by
  by_cases hbracket : c = ']'
  · subst hbracket
    rw [firstLexeme?_bracket] at hfirst
    cases hfirst
    exact Or.inl rfl
  · by_cases hhash : c = '#'
    · subst hhash
      by_cases hquote : QuoteNext text
      · obtain ⟨inner, rfl⟩ : ∃ inner, text = '"' :: inner := by
          cases text with
          | nil => cases hquote
          | cons d inner => exact ⟨inner, by rw [Option.some.inj hquote]⟩
        cases hcontent : quotedContent? inner with
        | none =>
            rw [firstLexeme?, hcontent] at hfirst
            cases hfirst
            exact Or.inr (Or.inl rfl)
        | some content =>
            obtain ⟨hquoted, rest, rfl, hrest⟩ := quotedContent?_eq_some hcontent
            rw [foundAt_quotedIdentifier h hquoted (.single hrest)] at hnone
            cases hnone
      · exact Or.inr (Or.inr ⟨rfl, firstLexeme?_hashKeyword hquote hfirst⟩)
    · obtain ⟨found, hfound⟩ := exists_foundAt h hfirst hbracket hhash
      rw [hfound] at hnone
      cases hnone

end Bundled

end TokenConcord
