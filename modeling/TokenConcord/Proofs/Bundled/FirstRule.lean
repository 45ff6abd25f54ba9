import TokenConcord.Proofs.Bundled.Code
import TokenConcord.Proofs.Bundled.Numbers
import TokenConcord.Proofs.Lexing.Words

/-!
# Which rule takes a number, a word or an operator

In code a number is taken by the rule for its form, a reserved word by the rule that lists it, a
hash keyword likewise, and an operator by the first rule with a text that the line goes on with.
The rule for identifiers is left with the words that no rule lists.
-/

namespace TokenConcord.Bundled

open Pattern Grammar Lexing
open CharSet (single)

variable {frame : Frame} {front u rest : Text} {word : String} {kind : Kind}

/-! ## The first rule that applies -/

/-- Of rules of one shape, the first that applies is found. -/
theorem firstOf_find {rules : List (RuleId × List String)} {shape : List String → Pattern}
    {p : RuleId × List String → Bool} {rule : RuleId × List String}
    {after : List (RuleId × Pattern)} (hrule : rules.find? p = some rule) (hu : u ≠ [])
    (hnone : ∀ other ∈ rules, p other = false →
      (shape other.2).matchAt (.between front (u ++ rest)) = none)
    (hsome : (shape rule.2).matchAt (.between front (u ++ rest)) =
      some ⟨front.width, .between (front ++ u) rest, []⟩) :
    firstOf (rules.map (fun rule => (rule.1, shape rule.2)) ++ after)
      (.between front (u ++ rest)) =
        some (.rule rule.1 ⟨front.width, .between (front ++ u) rest, []⟩) := by
  induction rules with
  | nil => cases hrule
  | cons other rules ih =>
      obtain ⟨hother, hrules⟩ := List.forall_mem_cons.mp hnone
      rw [List.map_cons, List.cons_append]
      cases hp : p other with
      | true =>
          rw [List.find?_cons_of_pos hp] at hrule
          cases hrule
          exact firstOf_some hu hsome
      | false =>
          rw [List.find?_cons_of_neg (by simp [hp])] at hrule
          rw [firstOf_none (hother hp)]
          exact ih hrule hrules

/-- Where none of them applies, those behind them are left. -/
theorem firstOf_skip {rules after : List (RuleId × Pattern)} {cursor : Cursor}
    (h : ∀ rule ∈ rules, rule.2.matchAt cursor = none) :
    firstOf (rules ++ after) cursor = firstOf after cursor := by
  induction rules with
  | nil => rfl
  | cons rule rules ih =>
      obtain ⟨hrule, hrules⟩ := List.forall_mem_cons.mp h
      rw [List.cons_append, firstOf_none hrule, ih hrules]

/-! ## Numbers -/

theorem startsAmong_digit {c : Char} (h : c.isDigit = true) : StartsAmong c [4, 5, 8] := by
  have hall : ∀ n < 128, (Char.ofNat n).isDigit = true → StartsAmong (Char.ofNat n) [4, 5, 8] := by
    with_unfolding_all decide
  exact @forall_ascii (fun c => c.isDigit = true → StartsAmong c [4, 5, 8]) hall c
    (lt_of_isDigit h) h

/-- Where digits stand, the rules for floats, for hexadecimal numbers and for digits are tried. -/
theorem foundAt_digits {whole : Text} (h : IsCode frame) (hwhole : AreDigits whole)
    (rest : Text) :
    compiled.foundAt frame (.between front (whole ++ rest)) =
      firstOf [(4, floatPattern), (5, hexPattern), (8, digits)]
        (.between front (whole ++ rest)) := by
  obtain ⟨c, more, rfl⟩ := List.exists_cons_of_ne_nil hwhole.1
  have hc := hwhole.2 c List.mem_cons_self
  have hbracket : c ≠ ']' := by
    rintro rfl
    cases hc
  exact foundAt_code h (startsAmong_digit hc) hbracket front (more ++ rest)

theorem inNumber_of_inFloat (c : Char) (h : inFloat c = true) : inNumber c = true := by
  simp only [inFloat, Bool.or_eq_true, beq_iff_eq] at h
  rcases h with ((h | rfl) | rfl) | rfl
  · exact inNumber_of_isDigit c h
  · decide
  · decide
  · decide

/-- A number is taken by one of the rules for floats, for digits and for fractions. -/
theorem foundAt_number {text : Text} (h : IsCode frame) (hnumber : IsNumber text)
    (hrest : StopsAt inNumber rest) :
    ∃ id ∈ [4, 8, 2], compiled.foundAt frame (.between front (text ++ rest)) =
      some (.rule id ⟨front.width, .between (front ++ text) rest, []⟩) := by
  have hhex : hexPattern.matchAt (.between front (text ++ rest)) = none :=
    matchAt_hex_none (hnumber.hexLength hrest)
  cases hnumber with
  | @whole digits' exponent' hdigits hexponent =>
      have hne : digits' ++ exponent' ≠ [] := List.append_ne_nil_of_left_ne_nil hdigits.1 _
      have hcode := @foundAt_digits frame front digits' h hdigits (exponent' ++ rest)
      rw [← List.append_assoc] at hcode
      rw [hcode]
      rcases hexponent with rfl | hexponent
      · rw [List.append_nil] at hhex hne ⊢
        have hfloat := @matchAt_float_none front digits' rest hdigits
          (hrest.mono inNumber_of_inFloat)
        refine ⟨8, by simp, ?_⟩
        rw [firstOf_none hfloat, firstOf_none hhex]
        exact firstOf_some hne (matchAt_digits hdigits hrest.isDigit)
      · exact ⟨4, by simp, firstOf_some hne (matchAt_float_exponent hdigits hexponent hrest)⟩
  | @fraction whole digits' exponent' hwhole hdigits hexponent =>
      rcases hwhole with rfl | hwhole
      · have hids : StartsAmong '.' [2, 21, 22] := by with_unfolding_all decide
        refine ⟨2, by simp, ?_⟩
        rw [List.nil_append, List.cons_append, foundAt_code h hids (by decide)]
        exact firstOf_some (List.cons_ne_nil _ _) (matchAt_fraction hdigits hexponent hrest)
      · have hne : whole ++ '.' :: (digits' ++ exponent') ≠ [] :=
          List.append_ne_nil_of_left_ne_nil hwhole.1 _
        have hcode := @foundAt_digits frame front whole h hwhole
          ('.' :: (digits' ++ exponent') ++ rest)
        rw [← List.append_assoc] at hcode
        rw [hcode]
        exact ⟨4, by simp, firstOf_some hne (matchAt_float_fraction hwhole hdigits hexponent hrest)⟩

theorem foundAt_hexNumber {text : Text} (h : IsCode frame) (hnumber : IsHexNumber text)
    (hrest : StopsAt inNumber rest) :
    compiled.foundAt frame (.between front (text ++ rest)) =
      some (.rule 5 ⟨front.width, .between (front ++ text) rest, []⟩) := by
  have hmatch := @matchAt_hex front text rest hnumber hrest
  cases hnumber with
  | @digits mark digits hmark hne hdigits =>
      have hstop : StopsAt inFloat (mark :: (digits ++ rest)) := by
        refine StopsAt.cons ?_ _
        rcases hmark with rfl | rfl <;> decide
      have hzero : AreDigits ['0'] := ⟨by simp, by decide⟩
      have hcode := @foundAt_digits frame front ['0'] h hzero (mark :: (digits ++ rest))
      rw [firstOf_none (matchAt_float_none hzero hstop)] at hcode
      exact hcode.trans (firstOf_some (List.cons_ne_nil _ _) hmatch)

/-! ## Words -/

/-- The rules for words that stand by themselves, in order. -/
def wordRules : List (RuleId × List String) :=
  [(12, ["true", "false"]), (14, ["null"]), (23, ["and", "or", "not"]),
    (24, ["if", "then", "else"]), (25, ["try", "otherwise", "error"]),
    (26, ["as", "each", "in", "is", "let", "meta", "type", "section", "shared"]), (7, ["_"])]

theorem areWords_wordRules : ∀ rule ∈ wordRules, AreWords rule.2 := by
  have h : ∀ rule ∈ wordRules, rule.2 ≠ [] ∧ ∀ word ∈ rule.2, word.toList ≠ [] ∧
      ∀ c ∈ word.toList, c.toNat < 128 ∧ isAsciiPart c = true := by decide
  exact fun rule hmem => areWords (h rule hmem).1 (h rule hmem).2

theorem startsAmong_word {c : Char} (h : isAsciiStart c = true) :
    StartsAmong c [12, 14, 23, 24, 25, 26, 7, 6] := by
  have hall : ∀ n < 128, isAsciiStart (Char.ofNat n) = true →
      StartsAmong (Char.ofNat n) [12, 14, 23, 24, 25, 26, 7, 6] := by
    with_unfolding_all decide
  exact @forall_ascii
    (fun c => isAsciiStart c = true → StartsAmong c [12, 14, 23, 24, 25, 26, 7, 6]) hall c
    (lt_of_isAsciiPart (isAsciiPart_of_isAsciiStart h)) h

/-- Where a word starts, the rules for words are tried and then the one for identifiers. -/
theorem foundAt_word (h : IsCode frame) {c : Char} (hc : isAsciiStart c = true) (text : Text) :
    compiled.foundAt frame (.between front (c :: text)) =
      firstOf (wordRules.map (fun rule => (rule.1, wholeWord rule.2)) ++ [(6, identifierPattern)])
        (.between front (c :: text)) := by
  have hrules : codeRules.filter (·.1 ∈ [12, 14, 23, 24, 25, 26, 7, 6]) =
      [(12, wholeWord ["true", "false"]), (14, nullPattern), (23, wholeWord ["and", "or", "not"]),
        (24, wholeWord ["if", "then", "else"]), (25, wholeWord ["try", "otherwise", "error"]),
        (26, wholeWord ["as", "each", "in", "is", "let", "meta", "type", "section", "shared"]),
        (7, wholeWord ["_"]), (6, identifierPattern)] := rfl
  have hbracket : c ≠ ']' := by
    rintro rfl
    cases hc
  rw [foundAt_code h (startsAmong_word hc) hbracket, hrules]
  simp only [firstOf, wordRules, List.map_cons, List.map_nil, List.cons_append, List.nil_append,
    List.findSome?_cons, nonEmptyAt, matchAt_null]

theorem find?_wordRules : ∀ entry ∈ reservedWords, ∃ rule ∈ wordRules,
    wordRules.find? (entry.1 ∈ ·.2) = some rule := by decide

/-- A reserved word is taken by the rule that lists it. -/
theorem foundAt_reserved (h : IsCode frame) (hword : (word, kind) ∈ reservedWords)
    (hfront : wordClass.memAt front.getLast? = false)
    (hrest : wordClass.memAt rest.head? = false) :
    ∃ rule ∈ wordRules, word ∈ rule.2 ∧
      compiled.foundAt frame (.between front (word.toList ++ rest)) =
        some (.rule rule.1 ⟨front.width, .between (front ++ word.toList) rest, []⟩) := by
  obtain ⟨c, text, htext, hc, hparts⟩ := (reservedWords_spec _ hword).1.exists_cons
  obtain ⟨rule, hmem, hfind⟩ := find?_wordRules _ hword
  have hlisted : word ∈ rule.2 := by simpa using List.find?_some hfind
  have hne : word.toList ≠ [] := by
    rw [htext]
    exact List.cons_ne_nil _ _
  refine ⟨rule, hmem, hlisted, ?_⟩
  have hcode := @foundAt_word frame front h c hc (text ++ rest)
  rw [← List.cons_append, ← htext] at hcode
  rw [hcode]
  have hwithin := ((areWords_wordRules _ hmem).2 word hlisted).2
  refine firstOf_find hfind hne (fun other hother hapart => ?_)
    (matchAt_wholeWord (areWords_wordRules _ hmem) hlisted hfront hrest)
  refine matchAt_wholeWord_none (areWords_wordRules _ hother) hwithin hrest ?_
  intro same hsame heq
  rw [← String.toList_injective heq] at hsame
  simp [hsame] at hapart

/-- A word that no rule lists is taken by the rule for identifiers. -/
theorem foundAt_identifier {segment more : Text} (h : IsCode frame) (hsegment : IsSegment segment)
    (hlisted : ∀ rule ∈ wordRules, ∀ word ∈ rule.2, segment ≠ word.toList)
    (hmore : AreSegments more) (hrest : StopsAt inWord rest)
    (hclass : wordClass.memAt rest.head? = false) :
    compiled.foundAt frame (.between front (segment ++ more ++ rest)) =
      some (.rule 6 ⟨front.width, .between (front ++ (segment ++ more)) rest,
        [⟨2, front.width, (front ++ (segment ++ more)).width⟩]⟩) := by
  obtain ⟨c, text, rfl, hc, htext⟩ := hsegment.exists_cons
  have hwithin : Within wordClass (c :: text) := by
    intro d hd
    have hpart : isAsciiPart d = true := by
      rcases List.mem_cons.mp hd with rfl | hd
      · exact isAsciiPart_of_isAsciiStart hc
      · exact htext d hd
    rw [mem_wordClass_ascii (lt_of_isAsciiPart hpart), hpart]
  have hbehind : wordClass.memAt (more ++ rest).head? = false := by
    cases hmore with
    | nil => exact hclass
    | cons _ _ =>
        rw [List.cons_append, List.head?_cons, memAt_some, mem_wordClass_ascii (by decide)]
        decide
  have htail : identifierTail (text ++ (more ++ rest)) = (text ++ more).length := by
    rw [identifierTail_parts htext, identifierTail_segments hmore hrest, List.length_append]
  have hmatch := @matchAt_identifier front c (isIdentifierStart_of_isAsciiStart hc)
    (text ++ (more ++ rest))
  rw [htail, ← List.append_assoc, List.take_left, List.drop_left] at hmatch
  rw [List.append_assoc, List.cons_append, foundAt_word h hc]
  rw [firstOf_skip fun rule hrule => ?_]
  · have hfirst := @firstOf_some 6 identifierPattern [] front (c :: text ++ more) rest _
      (List.cons_ne_nil _ _) hmatch
    rwa [List.cons_append, List.cons_append, List.append_assoc] at hfirst
  · obtain ⟨words, hmem, rfl⟩ := List.mem_map.mp hrule
    exact matchAt_wholeWord_none (areWords_wordRules _ hmem) hwithin hbehind (hlisted _ hmem)

/-! ## Hash keywords -/

/-- The rules for words behind a hash sign, in order. -/
def hashRules : List (RuleId × List String) :=
  [(15, ["infinity", "nan"]), (27, ["sections", "shared"]),
    (28, ["binary", "datetimezone", "datetime", "date", "duration", "table", "time"])]

theorem areWords_hashRules : ∀ rule ∈ hashRules, AreWords rule.2 := by
  have h : ∀ rule ∈ hashRules, rule.2 ≠ [] ∧ ∀ word ∈ rule.2, word.toList ≠ [] ∧
      ∀ c ∈ word.toList, c.toNat < 128 ∧ isAsciiPart c = true := by decide
  exact fun rule hmem => areWords (h rule hmem).1 (h rule hmem).2

theorem find?_hashRules : ∀ rule ∈ hashRules, ∀ word ∈ rule.2,
    hashRules.find? (word ∈ ·.2) = some rule := by decide

/-- A word behind a hash sign is taken by the rule that lists it. -/
theorem foundAt_hashWord (h : IsCode frame) {rule : RuleId × List String} (hrule : rule ∈ hashRules)
    (hword : word ∈ rule.2) (hrest : wordClass.memAt rest.head? = false) :
    compiled.foundAt frame (.between front ('#' :: word.toList ++ rest)) =
      some (.rule rule.1 ⟨front.width, .between (front ++ '#' :: word.toList) rest, []⟩) := by
  have hrules : codeRules.filter (·.1 ∈ [15, 27, 28, 18]) =
      hashRules.map (fun rule => (rule.1, hashWord rule.2)) ++ [(18, quotedPattern)] := rfl
  have hwithin := ((areWords_hashRules _ hrule).2 word hword).2
  rw [List.cons_append, foundAt_code h startsAmong_hash (by decide), hrules]
  refine firstOf_find (u := '#' :: word.toList) (find?_hashRules _ hrule _ hword)
    (List.cons_ne_nil _ _) (fun other hother hapart => ?_)
    (matchAt_hashWord (areWords_hashRules _ hrule) hword hrest)
  refine matchAt_hashWord_none (areWords_hashRules _ hother) hwithin hrest ?_
  intro same hsame heq
  rw [← String.toList_injective heq] at hsame
  simp [hsame] at hapart

/-! ## Operators -/

/-- The rules for operators and punctuation with the texts they take, in order. -/
def operatorRules : List (RuleId × List String) :=
  [(29, ["=>"]), (30, ["<>", "<=", ">=", "<", ">"]), (31, ["="]), (32, ["??"]), (33, ["?"]),
    (34, ["+", "-", "*", "/"]), (35, ["&"]), (36, ["!"]), (37, ["@"]), (21, ["..."]), (22, [".."]),
    (38, [","]), (39, [";"]), (40, ["("]), (41, [")"]), (42, ["\x7b"]), (43, ["\x7d"])]

theorem matchAt_oneOf_none {words : List String} {text : Text} (hne : words ≠ [])
    (h : ∀ word ∈ words, ¬ word.toList <+: text) :
    (oneOf words).matchAt (.between front text) = none := by
  rw [Option.eq_none_iff_forall_ne_some]
  intro found hfound
  obtain ⟨u, more, rfl, hreads, _⟩ := matchAt_reads hfound
  obtain ⟨word, hword, rfl⟩ := (reads_oneOf hne).mp hreads
  exact h word hword (List.prefix_append _ _)

/-- The preferred one of several texts matches where no other of them is part of the line. -/
theorem matchAt_oneOf_find {words : List String}
    (h : words.find? (·.toList.isPrefixOf (word.toList ++ rest)) = some word) :
    (oneOf words).matchAt (.between front (word.toList ++ rest)) =
      some ⟨front.width, .between (front ++ word.toList) rest, []⟩ := by
  obtain ⟨_, before, after, rfl, hbefore⟩ := List.find?_eq_some_iff_append.mp h
  refine matchAt_oneOf fun other hother hbegins => ?_
  have hnot := hbefore other hother
  rw [List.isPrefixOf_iff_prefix.mpr hbegins] at hnot
  cases hnot

theorem operatorRules_ne_nil : ∀ rule ∈ operatorRules, rule.2 ≠ [] := by decide

/-- The pattern for arithmetic operators takes the same as a list of them. -/
theorem matchAt_arithmetic (front text : Text) :
    (Pattern.set arithmetic).matchAt (.between front text) =
      (oneOf ["+", "-", "*", "/"]).matchAt (.between front text) := by
  cases text with
  | nil => rfl
  | cons c text =>
      have hmem : arithmetic.mem c =
          ["+", "-", "*", "/"].any (·.toList.isPrefixOf (c :: text)) := by
        rw [arithmetic, mem_unions (by simp [ascending_single])]
        simp [mem_single, List.isPrefixOf, @BEq.comm _ _ _ c]
      rw [matchAt, run_set_cons, hmem]
      cases hfind : ["+", "-", "*", "/"].find? (·.toList.isPrefixOf (c :: text)) with
      | none =>
          have hnone := List.find?_eq_none.mp hfind
          rw [List.any_eq_false.mpr hnone, matchAt_oneOf_none (by simp) fun word hword hbegins =>
            hnone word hword (List.isPrefixOf_iff_prefix.mpr hbegins)]
          rfl
      | some word =>
          have hall : ∀ word ∈ ["+", "-", "*", "/"], ∃ d, word.toList = [d] := by
            simp
          obtain ⟨d, hword⟩ := hall word (List.mem_of_find?_eq_some hfind)
          have hfound := List.find?_some hfind
          have hd : d = c := by
            rw [hword] at hfound
            exact (List.cons_prefix_cons.mp (List.isPrefixOf_iff_prefix.mp hfound)).1
          subst hd
          have hline : d :: text = word.toList ++ text := by
            rw [hword]
            rfl
          rw [List.any_eq_true.mpr ⟨word, List.mem_of_find?_eq_some hfind, hfound⟩, if_pos rfl]
          rw [hline] at hfind ⊢
          rw [matchAt_oneOf_find hfind, hword]
          rfl

/-- Rules that operators may start, in any order. -/
def operatorIds : List RuleId := [1, 10, 2, 6] ++ operatorRules.map (·.1)

theorem startsAmong_operator : ∀ rule ∈ operatorRules, ∀ word ∈ rule.2, ∀ c ∈ word.toList.head?,
    StartsAmong c operatorIds ∧ c ≠ ']' := by
  decide

/-- Where an operator starts, the rules for operators are left behind four others. -/
theorem foundAt_operatorStart (h : IsCode frame) {c : Char} (hc : StartsAmong c operatorIds)
    (hbracket : c ≠ ']') (text : Text) :
    compiled.foundAt frame (.between front (c :: text)) =
      firstOf ([(1, literal ['/', '*']), (10, lineCommentPattern), (2, fraction),
        (6, identifierPattern)] ++ (operatorRules.map (fun rule => (rule.1, oneOf rule.2)) ++ []))
        (.between front (c :: text)) := by
  have hrules : codeRules.filter (·.1 ∈ operatorIds) =
      [(1, literal ['/', '*']), (10, lineCommentPattern), (2, fraction), (6, identifierPattern),
        (29, oneOf ["=>"]), (30, oneOf ["<>", "<=", ">=", "<", ">"]), (31, oneOf ["="]),
        (32, oneOf ["??"]), (33, oneOf ["?"]), (34, .set arithmetic), (35, oneOf ["&"]),
        (36, oneOf ["!"]), (37, oneOf ["@"]), (21, oneOf ["..."]), (22, oneOf [".."]),
        (38, oneOf [","]), (39, oneOf [";"]), (40, oneOf ["("]), (41, oneOf [")"]),
        (42, oneOf ["\x7b"]), (43, oneOf ["\x7d"])] := rfl
  rw [foundAt_code h hc hbracket, hrules]
  simp only [firstOf, operatorRules, List.map_cons, List.map_nil, List.cons_append,
    List.nil_append, List.append_nil, List.findSome?_cons, nonEmptyAt, matchAt_arithmetic]

/-- What a fraction reads starts with a point and a digit. -/
theorem fraction_reads (h : fraction.Reads front u rest) :
    ∃ d more, u = '.' :: d :: more ∧ d.isDigit = true := by
  obtain ⟨_, _, rfl, ⟨c, rfl, hc⟩, _, _, rfl, ⟨count, hcount, hdigits⟩, _⟩ := h
  rw [mem_single, beq_iff_eq] at hc
  subst hc
  cases count with
  | zero => cases hcount
  | succ count =>
      obtain ⟨_, more, rfl, ⟨d, rfl, hd⟩, _⟩ := hdigits
      exact ⟨d, _, rfl, by rwa [mem_digit] at hd⟩

/-- What an identifier reads starts with the start of a segment, or with one behind an at sign. -/
theorem identifier_reads (h : identifierPattern.Reads front u rest) :
    ∃ d more, (u = d :: more ∨ u = '@' :: d :: more) ∧ isIdentifierStart d = true := by
  obtain ⟨_, _, rfl, ⟨count, _, hcount, hat⟩, _, more, rfl, ⟨d, rfl, hd⟩, _⟩ := h
  rw [mem_identifierStart] at hd
  cases count with
  | zero =>
      cases hat
      exact ⟨d, more, Or.inl rfl, hd⟩
  | succ count =>
      obtain rfl : count = 0 := by omega
      obtain ⟨_, _, rfl, ⟨c, rfl, hc⟩, hnil⟩ := hat
      rw [mem_single, beq_iff_eq] at hc
      subst hc hnil
      exact ⟨d, more, Or.inr rfl, hd⟩

/-- The texts of the rules for operators are fixed lexemes of the reference lexer, and each is
the preferred one of those that it starts with. -/
theorem operatorRules_spec : ∀ rule ∈ operatorRules, ∀ word ∈ rule.2,
    word.toList ∈ fixedLexemes.map (·.1.toList) ∧ startsOperator word.toList = true ∧
      (∀ opener ∈ openers, ¬ opener <+: word.toList) ∧
      (word.toList.head? = some '@' → word.toList = ['@']) ∧
      operatorRules.find? (·.2.any (·.toList.isPrefixOf word.toList)) = some rule ∧
      rule.2.find? (·.toList.isPrefixOf word.toList) = some word := by
  decide

theorem matchAt_fraction_none {text : Text} (h : startsOperator text = true) :
    fraction.matchAt (.between front (text ++ rest)) = none := by
  rw [Option.eq_none_iff_forall_ne_some]
  intro found hfound
  obtain ⟨u, behind, heq, hreads, _⟩ := matchAt_reads hfound
  obtain ⟨d, more, rfl, hd⟩ := fraction_reads hreads
  cases text with
  | nil => cases h
  | cons c text =>
      obtain ⟨rfl, htext⟩ := List.cons.inj heq
      cases text with
      | nil => cases h
      | cons e text =>
          obtain ⟨rfl, _⟩ := List.cons.inj htext
          simp [startsOperator, hd] at h

theorem matchAt_identifier_none {text : Text} (h : startsOperator text = true)
    (hat : text.head? = some '@' → text = ['@'] ∧ StopsAt isIdentifierStart rest) :
    identifierPattern.matchAt (.between front (text ++ rest)) = none := by
  rw [Option.eq_none_iff_forall_ne_some]
  intro found hfound
  obtain ⟨u, behind, heq, hreads, _⟩ := matchAt_reads hfound
  obtain ⟨d, more, hu, hd⟩ := identifier_reads hreads
  cases text with
  | nil => cases h
  | cons c text =>
      rcases hu with rfl | rfl
      · obtain ⟨rfl, _⟩ := List.cons.inj heq
        cases text <;> simp [startsOperator, hd] at h
      · obtain ⟨rfl, htext⟩ := List.cons.inj heq
        obtain ⟨hsingle, hstops⟩ := hat rfl
        rw [(List.cons.inj hsingle).2] at htext
        have hrest : rest = d :: more ++ behind := htext
        have hstop := hstops d (by rw [hrest]; rfl)
        rw [hd] at hstop
        cases hstop

variable {rule : RuleId × List String}

/-- A line starts with the same operators as a part in front that the rest does not extend. -/
theorem prefix_operator (hrule : rule ∈ operatorRules) {text : String} (htext : text ∈ rule.2)
    (hrest : StopsAt (extensions u).contains rest) :
    text.toList <+: u ++ rest ↔ text.toList <+: u :=
  prefix_append_of_stops (List.mem_append_right _ (operatorRules_spec rule hrule text htext).1) hrest

/-- A rule for operators matches with the preferred one of its texts. -/
theorem matchAt_operator (hrule : rule ∈ operatorRules) (hword : word ∈ rule.2)
    (hrest : StopsAt (extensions word.toList).contains rest) :
    (oneOf rule.2).matchAt (.between front (word.toList ++ rest)) =
      some ⟨front.width, .between (front ++ word.toList) rest, []⟩ := by
  obtain ⟨_, _, _, _, _, hprefer⟩ := operatorRules_spec rule hrule word hword
  refine matchAt_oneOf_find ?_
  rw [← hprefer]
  refine List.find?_congr fun text htext => Bool.eq_iff_iff.mpr ?_
  rw [List.isPrefixOf_iff_prefix, List.isPrefixOf_iff_prefix]
  exact prefix_operator hrule htext hrest

/-- A rule for operators does not match where the operator starts with none of its texts. -/
theorem matchAt_operator_none (hrule : rule ∈ operatorRules)
    (hapart : rule.2.any (·.toList.isPrefixOf u) = false)
    (hrest : StopsAt (extensions u).contains rest) :
    (oneOf rule.2).matchAt (.between front (u ++ rest)) = none := by
  refine matchAt_oneOf_none (operatorRules_ne_nil rule hrule) fun text htext hline => ?_
  have hstart := (prefix_operator hrule htext hrest).mp hline
  exact List.any_eq_false.mp hapart text htext (List.isPrefixOf_iff_prefix.mpr hstart)

/-- A rule that starts a construct does not match where none opens. -/
theorem matchAt_construct_none {rule : RuleId × Pattern} {text : Text} (hrule : rule ∈ codeRules)
    (hid : rule.1 ∈ constructIds) (hopens : ¬ Opens text) :
    rule.2.matchAt (.between front text) = none := by
  rw [Option.eq_none_iff_forall_ne_some]
  intro found hfound
  obtain ⟨u, behind, rfl, hreads, _⟩ := matchAt_reads hfound
  exact hopens (opens_of_reads hrule hid hreads)

/-- An operator is taken by the rule that lists it. -/
theorem foundAt_operator (h : IsCode frame) (hrule : rule ∈ operatorRules) (hword : word ∈ rule.2)
    (hrest : StopsAt (extensions word.toList).contains rest)
    (hat : word = "@" → StopsAt isIdentifierStart rest) :
    compiled.foundAt frame (.between front (word.toList ++ rest)) =
      some (.rule rule.1 ⟨front.width, .between (front ++ word.toList) rest, []⟩) := by
  obtain ⟨_, hstarts, hopeners, hsingle, hfind, _⟩ := operatorRules_spec rule hrule word hword
  have hopens : ¬ Opens (word.toList ++ rest) := by
    rintro ⟨opener, hmem, hopener⟩
    exact hopeners opener hmem
      ((prefix_append_of_stops (List.mem_append_left _ hmem) hrest).mp hopener)
  have hothers : ∀ other ∈ [(1, literal ['/', '*']), (10, lineCommentPattern), (2, fraction),
      (6, identifierPattern)], other.2.matchAt (.between front (word.toList ++ rest)) = none := by
    intro other hmem
    simp only [List.mem_cons, List.not_mem_nil, or_false] at hmem
    rcases hmem with rfl | rfl | rfl | rfl
    · exact matchAt_construct_none (by simp [codeRules]) (by decide) hopens
    · exact matchAt_construct_none (by simp [codeRules]) (by decide) hopens
    · exact matchAt_fraction_none hstarts
    · refine matchAt_identifier_none hstarts fun hhead => ⟨hsingle hhead, hat ?_⟩
      exact String.toList_injective (hsingle hhead)
  have hne : word.toList ≠ [] := by
    intro hnil
    rw [hnil] at hstarts
    cases hstarts
  obtain ⟨c, text, htext⟩ := List.exists_cons_of_ne_nil hne
  obtain ⟨hids, hbracket⟩ := startsAmong_operator rule hrule word hword c (by rw [htext]; rfl)
  have hcode := @foundAt_operatorStart frame front h c hids hbracket (text ++ rest)
  rw [← List.cons_append, ← htext] at hcode
  rw [hcode, firstOf_skip hothers]
  exact firstOf_find hfind hne
    (fun other hother hapart => matchAt_operator_none hother hapart hrest)
    (matchAt_operator hrule hword hrest)

end TokenConcord.Bundled
