import TokenConcord.Lexing.Kind
import TokenConcord.Reconcile.Normalize

/-!
# Classification of reference tokens

A table gives each kind of reference token the label that the grammar should give the same
token. A label with the ending of all scope names is meant as it stands; any other label
stands for all labels that start with it, because some kinds cover several scopes.
-/

namespace TokenConcord

open Lexing (Kind)

/-- What the innermost scope of a token should be. -/
inductive ExpectedScope where
  | exact (label : String)
  /-- Any label that starts with this one. -/
  | family (stem : String)
  deriving DecidableEq, Repr

namespace ExpectedScope

/-- The expectation that a label of the table states. -/
def ofLabel (label : String) : ExpectedScope :=
  if Label.nameEnding.toList.isSuffixOf label.toList then exact label else family label

/-- The label as the table states it. -/
def label : ExpectedScope → String
  | exact label => label
  | family stem => stem

/-- Whether a scope meets the expectation. -/
def accepts (expected : ExpectedScope) (scope : String) : Bool :=
  match expected with
  | exact label => scope == label
  | family stem => stem.toList.isPrefixOf scope.toList

/-- The expectation as reported to the user. -/
def render : ExpectedScope → String
  | exact label => label
  | family stem => stem ++ "*"

end ExpectedScope

/-- A defect of the table. -/
inductive MappingError where
  | unmapped (kind : Kind)
  | duplicate (kind : Kind)
  deriving DecidableEq, Repr

/-- The defect as reported to the user. -/
def MappingError.message : MappingError → String
  | unmapped kind => s!"no classification for token kind {kind.name}"
  | duplicate kind => s!"token kind {kind.name} is classified more than once"

/-- Expectations by kind. No kind is listed twice. -/
structure ClassificationTable where
  entries : List (Kind × ExpectedScope)
  distinct : (entries.map (·.1)).Nodup
  deriving DecidableEq, Repr

namespace ClassificationTable

/-- The table without entries. -/
def empty : ClassificationTable := ⟨[], List.nodup_nil⟩

/-- Kinds that the table lists. -/
def kinds (table : ClassificationTable) : List Kind := table.entries.map (·.1)

/-- The expectation listed for a kind. -/
def get? (table : ClassificationTable) (kind : Kind) : Option ExpectedScope :=
  (table.entries.find? (·.1 == kind)).map (·.2)

theorem get?_eq_none_iff {table : ClassificationTable} {kind : Kind} :
    table.get? kind = none ↔ kind ∉ table.kinds := by
  rw [get?, Option.map_eq_none_iff, List.find?_eq_none, kinds, List.mem_map]
  simp only [not_exists, not_and, beq_iff_eq]

/-- An entry for a kind that is not listed yet repeats none. -/
theorem distinct_concat {table : ClassificationTable} {kind : Kind}
    (h : ¬ (table.get? kind).isSome) (scope : ExpectedScope) :
    ((table.entries ++ [(kind, scope)]).map (·.1)).Nodup := by
  rw [Option.not_isSome_iff_eq_none, get?_eq_none_iff] at h
  rw [List.map_append, List.nodup_append]
  refine ⟨table.distinct, List.pairwise_singleton _ kind, fun listed hlisted other hother => ?_⟩
  rw [List.mem_singleton.mp hother]
  rintro rfl
  exact h hlisted

/-- Add an entry for a kind that is not listed yet. -/
def insert (table : ClassificationTable) (kind : Kind) (label : String) :
    Except MappingError ClassificationTable :=
  if h : (table.get? kind).isSome then .error (.duplicate kind)
  else .ok ⟨table.entries ++ [(kind, .ofLabel label)], distinct_concat h _⟩

/-- A table of the given entries, in order. -/
def ofEntries (entries : List (Kind × String)) : Except MappingError ClassificationTable :=
  entries.foldlM (fun table (kind, label) => table.insert kind label) empty

/-- The expectation for a kind, which has to be listed. -/
def expected (table : ClassificationTable) (kind : Kind) : Except MappingError ExpectedScope :=
  match table.get? kind with
  | some scope => .ok scope
  | none => .error (.unmapped kind)

/-- Check that every kind is listed; the first one that is not counts. -/
def validate (table : ClassificationTable) : Except MappingError Unit :=
  match Kind.all.find? fun kind => (table.get? kind).isNone with
  | some kind => .error (.unmapped kind)
  | none => .ok ()

/-- Number of entries. -/
def size (table : ClassificationTable) : Nat := table.entries.length

/-- Labels of the bundled grammar for every kind. -/
def standardEntries : List (Kind × String) :=
  [(.ampersand, "keyword.operator.combination.powerquery"),
    (.asterisk, "keyword.operator.arithmetic.powerquery"),
    (.atSign, "keyword.operator.inclusiveidentifier.powerquery"),
    (.bang, "keyword.operator.sectionaccess.powerquery"),
    (.comma, "punctuation.separator.powerquery"),
    (.division, "keyword.operator.arithmetic.powerquery"),
    (.dotDot, "keyword.operator.list.powerquery"),
    (.ellipsis, "keyword.operator.ellipsis.powerquery"),
    (.equal, "keyword.operator.assignment-or-comparison.powerquery"),
    (.fatArrow, "keyword.operator.function.powerquery"),
    (.greaterThan, "keyword.operator.comparison.powerquery"),
    (.greaterThanEqualTo, "keyword.operator.comparison.powerquery"),
    (.hexLiteral, "constant.numeric.integer.hexadecimal.powerquery"),
    (.identifier, "entity.name.powerquery"),
    (.keywordAnd, "keyword.operator.word.logical.powerquery"),
    (.keywordAs, "keyword.other.powerquery"),
    (.keywordEach, "keyword.other.powerquery"),
    (.keywordElse, "keyword.control.conditional.powerquery"),
    (.keywordError, "keyword.control.exception.powerquery"),
    (.keywordFalse, "constant.language.logical.powerquery"),
    (.keywordHashBinary, "keyword.other.constructor.powerquery"),
    (.keywordHashDate, "keyword.other.constructor.powerquery"),
    (.keywordHashDateTime, "keyword.other.constructor.powerquery"),
    (.keywordHashDateTimeZone, "keyword.other.constructor.powerquery"),
    (.keywordHashDuration, "keyword.other.constructor.powerquery"),
    (.keywordHashInfinity, "constant.language.numeric.float.powerquery"),
    (.keywordHashNan, "constant.language.numeric.float.powerquery"),
    (.keywordHashSections, "constant.language.intrinsicvariable.powerquery"),
    (.keywordHashShared, "constant.language.intrinsicvariable.powerquery"),
    (.keywordHashTable, "keyword.other.constructor.powerquery"),
    (.keywordHashTime, "keyword.other.constructor.powerquery"),
    (.keywordIf, "keyword.control.conditional.powerquery"),
    (.keywordIn, "keyword.other.powerquery"),
    (.keywordIs, "keyword.other.powerquery"),
    (.keywordLet, "keyword.other.powerquery"),
    (.keywordMeta, "keyword.other.powerquery"),
    (.keywordNot, "keyword.operator.word.logical.powerquery"),
    (.keywordOr, "keyword.operator.word.logical.powerquery"),
    (.keywordOtherwise, "keyword.control.exception.powerquery"),
    (.keywordSection, "keyword.other.powerquery"),
    (.keywordShared, "keyword.other.powerquery"),
    (.keywordThen, "keyword.control.conditional.powerquery"),
    (.keywordTrue, "constant.language.logical.powerquery"),
    (.keywordTry, "keyword.control.exception.powerquery"),
    (.keywordType, "keyword.other.powerquery"),
    (.leftBrace, "punctuation.section.braces.begin.powerquery"),
    (.leftBracket, "punctuation.section.brackets.begin.powerquery"),
    (.leftParenthesis, "punctuation.section.parens.begin.powerquery"),
    (.lessThan, "keyword.operator.comparison.powerquery"),
    (.lessThanEqualTo, "keyword.operator.comparison.powerquery"),
    (.lineComment, "comment.line.double-slash.powerquery"),
    (.minus, "keyword.operator.arithmetic.powerquery"),
    (.multilineComment, "comment.block.powerquery"),
    (.multilineCommentContent, "comment.block.powerquery"),
    (.multilineCommentEnd, "comment.block.powerquery"),
    (.multilineCommentStart, "comment.block.powerquery"),
    (.notEqual, "keyword.operator.comparison.powerquery"),
    (.nullCoalescingOperator, "keyword.operator.nullcoalescing.powerquery"),
    (.nullLiteral, "constant.language.null.powerquery"),
    (.numericLiteral, "constant.numeric."),
    (.plus, "keyword.operator.arithmetic.powerquery"),
    (.questionMark, "keyword.operator.optional.powerquery"),
    (.quotedIdentifierContent, "entity.name.powerquery"),
    (.quotedIdentifierEnd, "entity.name.powerquery"),
    (.quotedIdentifierStart, "entity.name.powerquery"),
    (.rightBrace, "punctuation.section.braces.end.powerquery"),
    (.rightBracket, "punctuation.section.brackets.end.powerquery"),
    (.rightParenthesis, "punctuation.section.parens.end.powerquery"),
    (.semicolon, "punctuation.terminator.powerquery"),
    (.textLiteral, "string.quoted.double.powerquery"),
    (.textLiteralContent, "string.quoted.double.powerquery"),
    (.textLiteralEnd, "string.quoted.double.powerquery"),
    (.textLiteralStart, "string.quoted.double.powerquery")]

/-- The table of the standard entries, checked for repetition and completeness. -/
def standard : Except MappingError ClassificationTable := do
  let table ← ofEntries standardEntries
  table.validate
  return table

end ClassificationTable

end TokenConcord
