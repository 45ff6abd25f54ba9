import TokenConcord.Grammar.Bundled

/-!
# The bundled grammar, compiled

The rules of the bundled grammar as compiling gives them. The patterns are those of the
artifact in their read form, built from a few shapes: fixed texts, whole words, words behind a
hash sign, numbers, identifiers and quoted identifiers.
-/

namespace TokenConcord

namespace Pattern

/-! ## Shapes of patterns -/

/-- The pattern for a text as it stands. -/
def literal (text : Text) : Pattern := sequence (text.map fun c => .set (.single c))

/-- The pattern for one of several texts, the preferred one first. -/
def oneOf (texts : List String) : Pattern := choice (texts.map fun text => literal text.toList)

/-- The pattern for the boundary of a word. -/
def boundary : Pattern := .look (.wordBoundary wordClass)

/-- The pattern for one of several words that ends where it does. -/
def wordOf (words : List String) : Pattern := .seq (oneOf words) boundary

/-- The pattern for one of several words that stands by itself. -/
def wholeWord (words : List String) : Pattern := .seq boundary (wordOf words)

/-- The pattern for one of several words behind a hash sign. -/
def hashWord (words : List String) : Pattern := .seq (.set (.single '#')) (wordOf words)

/-! ## Reading in two steps -/

theorem ok_bind {ε α β : Type} (a : α) (f : α → Except ε β) : (Except.ok a >>= f) = f a := rfl

/-- A text is read as the pattern that its alternatives make up, if it is read to its end and
the pattern is neither too deep nor too large. -/
theorem parse_of_alternatives {text : Text} (p : Pattern) (depth groups : Nat)
    (h : (Reading.alternatives [] [] (text.length + 1)).run ⟨text, {}, 0, []⟩ =
      .ok (⟨p, depth⟩, ⟨[], {}, groups, []⟩))
    (hdepth : depth ≤ maxDepth) (hweight : p.weight ≤ maxWeight) : parse text = .ok p := by
  have hrun : Reading.whole.run ⟨text, {}, 0, []⟩ = .ok (p, ⟨[], {}, groups, []⟩) := by
    have hdeep := Nat.not_lt.mpr hdepth
    have hlarge := Nat.not_lt.mpr hweight
    simp only [Reading.whole, Reading.rest, Reading.peek, StateT.run_bind, StateT.run_get, h,
      pure_bind, bind_assoc]
    simp [ok_bind, hdeep, hlarge]
    rfl
  change Except.map _ (Reading.whole.run ⟨text, {}, 0, []⟩) = _
  rw [hrun]
  rfl

theorem parse_of_toOption {text : Text} {p : Pattern} (h : (parse text).toOption = some p) :
    parse text = .ok p := by
  cases hread : parse text with
  | error fault => rw [hread] at h; cases h
  | ok q => rw [hread] at h; cases h; rfl

end Pattern

namespace Grammar

/-! ## Compiling rule by rule -/

theorem compilePattern_ok {text : String} {p : Pattern} (h : Pattern.parse text.toList = .ok p)
    (location : String) : compilePattern location text = .ok p := by
  rw [compilePattern, h]

theorem compilePatterns_cons {names : List String} {location : String} {index : Nat}
    {next id : RuleId} {source : RuleSource} {sources : List RuleSource} {rule : Rule}
    {inner inner' all : List Rule} {ids : List RuleId} (hpure : pureInclude? source = none)
    (hrule : compileRule names s!"{location}.patterns[{index}]" next source = .ok (rule, inner))
    (hid : id = next + inner.length)
    (hsources : compilePatterns names location (index + 1) (id + 1) sources = .ok (ids, inner'))
    (hall : all = inner ++ rule :: inner') :
    compilePatterns names location index next (source :: sources) = .ok (id :: ids, all) := by
  subst hid hall
  rw [compilePatterns]
  simp only [hpure, hrule, bind, Except.bind, hsources]
  rfl

theorem compileRepository_cons {names : List String} {next next' : RuleId} {name : String}
    {source : RuleSource} {entries : List (String × RuleSource)} {rule : Rule}
    {inner inner' all rules : List Rule}
    (hrule : compileRule names s!"repository.{name}" next source = .ok (rule, inner))
    (hnext : next' = next + inner.length)
    (hentries : compileRepository names next' entries = .ok (rules, inner'))
    (hall : all = inner ++ inner') :
    compileRepository names next ((name, source) :: entries) = .ok (rule :: rules, all) := by
  subst hnext hall
  rw [compileRepository, hrule]
  simp only [bind, Except.bind, hentries]
  rfl

end Grammar

namespace Bundled

open Pattern Grammar

/-! ## Patterns -/

def digits : Pattern := .plus 0 (.set (.between '0' '9')) true

/-- An exponent with its sign. -/
def exponent : Pattern :=
  .seq (.set (.unions [.single 'e', .single 'E']))
    (.seq (.bounded 0 1 (.set (.unions [.single '+', .single '-'])) true) digits)

/-- Digits behind a point, with an exponent or none. -/
def fraction : Pattern :=
  .seq (.set (.single '.')) (.seq digits (.bounded 0 1 exponent true))

/-- A number with a fraction or an exponent. -/
def floatPattern : Pattern := .seq digits (.alt fraction exponent)

def hexDigit : CharSet := .unions [.between '0' '9', .between 'a' 'f', .between 'A' 'F']

def hexPattern : Pattern :=
  .seq (.set (.single '0'))
    (.seq (.set (.unions [.single 'x', .single 'X'])) (.plus 0 (.set hexDigit) true))

def identifierStart : CharSet := .unions [.single '_', .ofTables Unicode.letters]

def identifierPart : CharSet :=
  .unions [.single '_', .ofTables Unicode.letters, .ofRuns Unicode.decimalNumber]

/-- Further segments of an identifier, each behind a point. -/
def segments : Pattern :=
  .star (.seq (.set (.single '.'))
    (.seq (.set identifierStart) (.star (.set identifierPart) true))) true

def identifierPattern : Pattern :=
  .seq (.bounded 0 1 (.group 1 (.set (.single '@'))) true)
    (.group 2 (.seq (.set identifierStart) (.seq (.star (.set identifierPart) true) segments)))

/-- Any number of characters other than quotes, and of doubled quotes. -/
def quotedContent : Pattern :=
  .star (.alt (.set (CharSet.single '"').compl) (literal ['"', '"'])) true

def quotedPattern : Pattern :=
  .seq (.group 1 (literal ['#', '"']))
    (.seq (.group 2 quotedContent) (.group 3 (.set (.single '"'))))

def lineCommentPattern : Pattern :=
  .seq (.set (.single '/'))
    (.seq (.set (.single '/')) (.seq (.star (.set (CharSet.single '\n').compl) true)
      (.look .textEnd)))

def nullPattern : Pattern :=
  sequence (boundary :: "null".toList.map (fun c => .set (.single c)) ++ [boundary])

def arithmetic : CharSet := .unions [.single '+', .single '-', .single '*', .single '/']

theorem parse_decimal : Pattern.parse "\\.[0-9]+(?:[eE][+\\-]?[0-9]+)?".toList = .ok fraction :=
  parse_of_alternatives fraction 7 0 rfl (by decide) (by with_unfolding_all decide)

theorem parse_float :
    Pattern.parse "[0-9]+\\.[0-9]+(?:[eE][+\\-]?[0-9]+)?|[0-9]+[eE][+\\-]?[0-9]+".toList =
      .ok floatPattern :=
  parse_of_toOption (by with_unfolding_all decide)

theorem parse_hex : Pattern.parse "0[xX][0-9a-fA-F]+".toList = .ok hexPattern :=
  parse_of_alternatives hexPattern 4 0 rfl (by decide) (by with_unfolding_all decide)

theorem parse_arithmetic : Pattern.parse "[+\\-*/]".toList = .ok (.set arithmetic) :=
  parse_of_toOption (by with_unfolding_all decide)

theorem parse_identifier :
    Pattern.parse
      "(@)?([_\\p\x7bL\x7d][_\\p\x7bL\x7d\\p\x7bNd\x7d]*(?:\\.[_\\p\x7bL\x7d][_\\p\x7bL\x7d\\p\x7bNd\x7d]*)*)".toList =
      .ok identifierPattern :=
  -- The tables of letters are long, so the weight is left to the kernel.
  parse_of_alternatives identifierPattern 9 2 rfl (by decide) (by decide +kernel)

/-! ## Rules -/

/-- A rule that gives one scope to the matches of a pattern. -/
def named (location scope : String) (pattern : Pattern) : Rule :=
  ⟨location, [scope], .single pattern []⟩

/-- A rule that groups others. -/
def container (location : String) (patterns : List RuleId) : Rule :=
  ⟨location, [], .container patterns⟩

def blockCommentRule : Rule :=
  ⟨"repository.BlockComment", ["comment.block.powerquery"],
    .span (literal ['/', '*']) (literal ['*', '/']) []
      [⟨0, ["punctuation.definition.comment.end.powerquery"]⟩] [] false []⟩

def identifierRule : Rule :=
  ⟨"repository.Identifier", [], .single identifierPattern
    [⟨1, ["keyword.operator.inclusiveidentifier.powerquery"]⟩, ⟨2, ["entity.name.powerquery"]⟩]⟩

def quotedIdentifierRule : Rule :=
  ⟨"repository.QuotedIdentifier", ["entity.name.powerquery"], .single quotedPattern
    [⟨1, ["punctuation.definition.quotedidentifier.begin.powerquery"]⟩,
      ⟨3, ["punctuation.definition.quotedidentifier.end.powerquery"]⟩]⟩

def recordRule : Rule :=
  ⟨"repository.RecordExpression", ["meta.recordexpression.powerquery"],
    .span (literal ['[']) (literal [']'])
      [⟨0, ["punctuation.section.brackets.begin.powerquery"]⟩]
      [⟨0, ["punctuation.section.brackets.end.powerquery"]⟩] [] false [root]⟩

def textRule : Rule :=
  ⟨"repository.String", ["string.quoted.double.powerquery"],
    .span (literal ['"']) (literal ['"'])
      [⟨0, ["punctuation.definition.string.begin.powerquery"]⟩]
      [⟨0, ["punctuation.definition.string.end.powerquery"]⟩] [] true [44]⟩

/-- The rules of the repository, in order of their names. -/
def repositoryRules : List Rule :=
  [blockCommentRule,
    named "repository.DecimalNumber" "constant.numeric.decimal.powerquery" fraction,
    container "repository.DotOperators" [21, 22],
    named "repository.FloatNumber" "constant.numeric.float.powerquery" floatPattern,
    named "repository.HexNumber" "constant.numeric.integer.hexadecimal.powerquery" hexPattern,
    identifierRule,
    named "repository.ImplicitVariable" "keyword.operator.implicitvariable.powerquery"
      (wholeWord ["_"]),
    named "repository.IntNumber" "constant.numeric.integer.powerquery" digits,
    container "repository.Keywords" [23, 24, 25, 26, 27, 28],
    named "repository.LineComment" "comment.line.double-slash.powerquery" lineCommentPattern,
    container "repository.LiteralExpression" [20, 15, 12, 14, 4, 5, 2, 8],
    named "repository.LogicalConstant" "constant.language.logical.powerquery"
      (wholeWord ["true", "false"]),
    container "repository.Noise" [1, 10],
    named "repository.NullConstant" "constant.language.null.powerquery" nullPattern,
    named "repository.NumericConstant" "constant.language.numeric.float.powerquery"
      (hashWord ["infinity", "nan"]),
    container "repository.Operators" [29, 30, 31, 32, 33, 34, 35, 36, 37],
    container "repository.Punctuation" [38, 39, 40, 41, 42, 43],
    quotedIdentifierRule, recordRule, textRule]

/-- The rules written inside others, from position 21 on. -/
def innerRules : List Rule :=
  [named "repository.DotOperators.patterns[0]" "keyword.operator.ellipsis.powerquery"
      (literal ['.', '.', '.']),
    named "repository.DotOperators.patterns[1]" "keyword.operator.list.powerquery"
      (literal ['.', '.']),
    named "repository.Keywords.patterns[0]" "keyword.operator.word.logical.powerquery"
      (wholeWord ["and", "or", "not"]),
    named "repository.Keywords.patterns[1]" "keyword.control.conditional.powerquery"
      (wholeWord ["if", "then", "else"]),
    named "repository.Keywords.patterns[2]" "keyword.control.exception.powerquery"
      (wholeWord ["try", "otherwise", "error"]),
    named "repository.Keywords.patterns[3]" "keyword.other.powerquery"
      (wholeWord ["as", "each", "in", "is", "let", "meta", "type", "section", "shared"]),
    named "repository.Keywords.patterns[4]" "constant.language.intrinsicvariable.powerquery"
      (hashWord ["sections", "shared"]),
    named "repository.Keywords.patterns[5]" "keyword.other.constructor.powerquery"
      (hashWord ["binary", "datetimezone", "datetime", "date", "duration", "table", "time"]),
    named "repository.Operators.patterns[0]" "keyword.operator.function.powerquery"
      (literal ['=', '>']),
    named "repository.Operators.patterns[1]" "keyword.operator.comparison.powerquery"
      (oneOf ["<>", "<=", ">=", "<", ">"]),
    named "repository.Operators.patterns[2]"
      "keyword.operator.assignment-or-comparison.powerquery" (literal ['=']),
    named "repository.Operators.patterns[3]" "keyword.operator.nullcoalescing.powerquery"
      (literal ['?', '?']),
    named "repository.Operators.patterns[4]" "keyword.operator.optional.powerquery"
      (literal ['?']),
    named "repository.Operators.patterns[5]" "keyword.operator.arithmetic.powerquery"
      (.set arithmetic),
    named "repository.Operators.patterns[6]" "keyword.operator.combination.powerquery"
      (literal ['&']),
    named "repository.Operators.patterns[7]" "keyword.operator.sectionaccess.powerquery"
      (literal ['!']),
    named "repository.Operators.patterns[8]" "keyword.operator.inclusiveidentifier.powerquery"
      (literal ['@']),
    named "repository.Punctuation.patterns[0]" "punctuation.separator.powerquery"
      (literal [',']),
    named "repository.Punctuation.patterns[1]" "punctuation.terminator.powerquery"
      (literal [';']),
    named "repository.Punctuation.patterns[2]" "punctuation.section.parens.begin.powerquery"
      (literal ['(']),
    named "repository.Punctuation.patterns[3]" "punctuation.section.parens.end.powerquery"
      (literal [')']),
    named "repository.Punctuation.patterns[4]" "punctuation.section.braces.begin.powerquery"
      (literal ['\x7b']),
    named "repository.Punctuation.patterns[5]" "punctuation.section.braces.end.powerquery"
      (literal ['\x7d']),
    named "repository.String.patterns[0]" "constant.character.escape.quote.powerquery"
      (literal ['"', '"'])]

def rootRule : Rule := container "grammar" [13, 11, 9, 7, 6, 16, 3, 19, 17, 18]

/-- The bundled grammar in its compiled form. -/
def compiled : Grammar :=
  ⟨some "PowerQuery", "source.powerquery", ["pq", "pqm"],
    rootRule :: repositoryRules ++ innerRules⟩

/-! ## Compiling -/

/-- Names of the repository, in order. -/
def ruleNames : List String := artifact.repository.map (·.1)

theorem compileRule_word {pattern name : String} {p : Pattern}
    (h : Pattern.parse pattern.toList = .ok p) (hname : splitScopes (some name) = [name])
    (names : List String) (location : String) (next : RuleId) :
    compileRule names location next (word pattern name) = .ok (named location name p, []) := by
  rw [word, compileRule]
  simp only [compilePattern_ok h, hname]
  rfl

theorem compileRule_identifier (next : RuleId) :
    compileRule ruleNames "repository.Identifier" next identifier = .ok (identifierRule, []) := by
  rw [identifier, compileRule]
  simp only [compilePattern_ok parse_identifier]
  rfl

set_option maxRecDepth 2000 in
theorem compileRule_keywords :
    compileRule ruleNames "repository.Keywords" 23 keywords =
      .ok (container "repository.Keywords" [23, 24, 25, 26, 27, 28],
        (innerRules.drop 2).take 6) := by
  have all : compilePatterns ruleNames "repository.Keywords" 0 23 keywords.patterns =
      .ok ([23, 24, 25, 26, 27, 28], (innerRules.drop 2).take 6) := by
    refine compilePatterns_cons rfl (compileRule_word rfl rfl ..) rfl ?_ rfl
    refine compilePatterns_cons rfl (compileRule_word rfl rfl ..) rfl ?_ rfl
    refine compilePatterns_cons rfl (compileRule_word rfl rfl ..) rfl ?_ rfl
    refine compilePatterns_cons rfl (compileRule_word rfl rfl ..) rfl ?_ rfl
    refine compilePatterns_cons rfl (compileRule_word rfl rfl ..) rfl ?_ rfl
    exact compilePatterns_cons rfl (compileRule_word rfl rfl ..) rfl rfl rfl
  rw [keywords, group, compileRule]
  rw [keywords, group] at all
  simp only [all, ok_bind]
  rfl

theorem compileRule_operators :
    compileRule ruleNames "repository.Operators" 29 operators =
      .ok (container "repository.Operators" [29, 30, 31, 32, 33, 34, 35, 36, 37],
        (innerRules.drop 8).take 9) := by
  have all : compilePatterns ruleNames "repository.Operators" 0 29 operators.patterns =
      .ok ([29, 30, 31, 32, 33, 34, 35, 36, 37], (innerRules.drop 8).take 9) := by
    refine compilePatterns_cons rfl (compileRule_word rfl rfl ..) rfl ?_ rfl
    refine compilePatterns_cons rfl (compileRule_word rfl rfl ..) rfl ?_ rfl
    refine compilePatterns_cons rfl (compileRule_word rfl rfl ..) rfl ?_ rfl
    refine compilePatterns_cons rfl (compileRule_word rfl rfl ..) rfl ?_ rfl
    refine compilePatterns_cons rfl (compileRule_word rfl rfl ..) rfl ?_ rfl
    exact compilePatterns_cons rfl (compileRule_word parse_arithmetic rfl ..) rfl rfl rfl
  rw [operators, group, compileRule]
  rw [operators, group] at all
  simp only [all, ok_bind]
  rfl

theorem compileRepository_behind :
    compileRepository ruleNames 29 (artifact.repository.drop 9) =
      .ok (repositoryRules.drop 9, innerRules.drop 8) := by
  refine compileRepository_cons (compileRule_word rfl rfl ..) rfl ?_ rfl
  refine compileRepository_cons rfl rfl ?_ rfl
  refine compileRepository_cons (compileRule_word rfl rfl ..) rfl ?_ rfl
  refine compileRepository_cons rfl rfl ?_ rfl
  refine compileRepository_cons (compileRule_word rfl rfl ..) rfl ?_ rfl
  refine compileRepository_cons (compileRule_word rfl rfl ..) rfl ?_ rfl
  refine compileRepository_cons compileRule_operators rfl ?_ rfl
  refine compileRepository_cons rfl rfl ?_ rfl
  refine compileRepository_cons rfl rfl ?_ rfl
  refine compileRepository_cons rfl rfl ?_ rfl
  exact compileRepository_cons rfl rfl rfl rfl

theorem compileRepository_bundled :
    compileRepository ruleNames 21 artifact.repository = .ok (repositoryRules, innerRules) := by
  refine compileRepository_cons rfl rfl ?_ rfl
  refine compileRepository_cons (compileRule_word parse_decimal rfl ..) rfl ?_ rfl
  refine compileRepository_cons rfl rfl ?_ rfl
  refine compileRepository_cons (compileRule_word parse_float rfl ..) rfl ?_ rfl
  refine compileRepository_cons (compileRule_word parse_hex rfl ..) rfl ?_ rfl
  refine compileRepository_cons (compileRule_identifier ..) rfl ?_ rfl
  refine compileRepository_cons (compileRule_word rfl rfl ..) rfl ?_ rfl
  refine compileRepository_cons (compileRule_word rfl rfl ..) rfl ?_ rfl
  exact compileRepository_cons compileRule_keywords rfl compileRepository_behind rfl

/-- The bundled grammar compiles to the rules listed here. -/
theorem grammar_eq : grammar = .ok compiled := by
  have h := compileRepository_bundled
  rw [ruleNames] at h
  change compile artifact = _
  rw [compile]
  change (compileRepository _ 21 _ >>= _) = _
  rw [h]
  rfl

end Bundled

end TokenConcord
