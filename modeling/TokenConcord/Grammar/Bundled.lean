import TokenConcord.Grammar.Compile

/-!
# The bundled grammar

The grammar of the M language. A doubled quote inside a text literal stays inside because
the end of a text literal yields to the escape at the same position; a quoted identifier is
one match, so that its escapes stay inside the content.
-/

namespace TokenConcord.Bundled

/-- A rule that gives a scope to the matches of a pattern. -/
def word (pattern name : String) : RuleSource :=
  { matchPattern := some pattern, name := some name }

/-- A rule that stands for other rules. -/
def group (patterns : List RuleSource) : RuleSource :=
  { patterns }

/-- A pattern that stands for a rule of the repository, or for the whole grammar. -/
def see (target : String) : RuleSource :=
  { includeTarget := some target }

def blockComment : RuleSource :=
  { name := some "comment.block.powerquery"
    beginPattern := some "/\\*"
    endPattern := some "\\*/"
    endCaptures := [("0", some "punctuation.definition.comment.end.powerquery")] }

def decimalNumber : RuleSource :=
  word "\\.[0-9]+(?:[eE][+\\-]?[0-9]+)?" "constant.numeric.decimal.powerquery"

def dotOperators : RuleSource :=
  group
    [word "\\.\\.\\." "keyword.operator.ellipsis.powerquery",
      word "\\.\\." "keyword.operator.list.powerquery"]

def floatNumber : RuleSource :=
  word "[0-9]+\\.[0-9]+(?:[eE][+\\-]?[0-9]+)?|[0-9]+[eE][+\\-]?[0-9]+"
    "constant.numeric.float.powerquery"

def hexNumber : RuleSource :=
  word "0[xX][0-9a-fA-F]+" "constant.numeric.integer.hexadecimal.powerquery"

def identifier : RuleSource :=
  { matchPattern := some "(@)?([_\\p\x7bL\x7d][_\\p\x7bL\x7d\\p\x7bNd\x7d]*(?:\\.[_\\p\x7bL\x7d][_\\p\x7bL\x7d\\p\x7bNd\x7d]*)*)"
    captures :=
      [("1", some "keyword.operator.inclusiveidentifier.powerquery"),
        ("2", some "entity.name.powerquery")] }

def implicitVariable : RuleSource :=
  word "\\b_\\b" "keyword.operator.implicitvariable.powerquery"

def intNumber : RuleSource :=
  word "[0-9]+" "constant.numeric.integer.powerquery"

def keywords : RuleSource :=
  group
    [word "\\b(?:and|or|not)\\b" "keyword.operator.word.logical.powerquery",
      word "\\b(?:if|then|else)\\b" "keyword.control.conditional.powerquery",
      word "\\b(?:try|otherwise|error)\\b" "keyword.control.exception.powerquery",
      word "\\b(?:as|each|in|is|let|meta|type|section|shared)\\b" "keyword.other.powerquery",
      word "#(?:sections|shared)\\b" "constant.language.intrinsicvariable.powerquery",
      word "#(?:binary|datetimezone|datetime|date|duration|table|time)\\b"
        "keyword.other.constructor.powerquery"]

def lineComment : RuleSource :=
  word "//.*$" "comment.line.double-slash.powerquery"

def literalExpression : RuleSource :=
  group
    [see "#String", see "#NumericConstant", see "#LogicalConstant", see "#NullConstant",
      see "#FloatNumber", see "#HexNumber", see "#DecimalNumber", see "#IntNumber"]

def logicalConstant : RuleSource :=
  word "\\b(?:true|false)\\b" "constant.language.logical.powerquery"

def noise : RuleSource :=
  group [see "#BlockComment", see "#LineComment"]

def nullConstant : RuleSource :=
  word "\\bnull\\b" "constant.language.null.powerquery"

def numericConstant : RuleSource :=
  word "#(?:infinity|nan)\\b" "constant.language.numeric.float.powerquery"

def operators : RuleSource :=
  group
    [word "=>" "keyword.operator.function.powerquery",
      word "<>|<=|>=|<|>" "keyword.operator.comparison.powerquery",
      word "=" "keyword.operator.assignment-or-comparison.powerquery",
      word "\\?\\?" "keyword.operator.nullcoalescing.powerquery",
      word "\\?" "keyword.operator.optional.powerquery",
      word "[+\\-*/]" "keyword.operator.arithmetic.powerquery",
      word "&" "keyword.operator.combination.powerquery",
      word "!" "keyword.operator.sectionaccess.powerquery",
      word "@" "keyword.operator.inclusiveidentifier.powerquery"]

def punctuation : RuleSource :=
  group
    [word "," "punctuation.separator.powerquery",
      word ";" "punctuation.terminator.powerquery",
      word "\\(" "punctuation.section.parens.begin.powerquery",
      word "\\)" "punctuation.section.parens.end.powerquery",
      word "\\\x7b" "punctuation.section.braces.begin.powerquery",
      word "\\\x7d" "punctuation.section.braces.end.powerquery"]

def quotedIdentifier : RuleSource :=
  { name := some "entity.name.powerquery"
    matchPattern := some "(#\")((?:[^\"]|\"\")*)(\")"
    captures :=
      [("1", some "punctuation.definition.quotedidentifier.begin.powerquery"),
        ("3", some "punctuation.definition.quotedidentifier.end.powerquery")] }

def recordExpression : RuleSource :=
  { name := some "meta.recordexpression.powerquery"
    beginPattern := some "\\["
    beginCaptures := [("0", some "punctuation.section.brackets.begin.powerquery")]
    endPattern := some "\\]"
    endCaptures := [("0", some "punctuation.section.brackets.end.powerquery")]
    patterns := [see "$self"] }

def textLiteral : RuleSource :=
  { name := some "string.quoted.double.powerquery"
    beginPattern := some "\""
    beginCaptures := [("0", some "punctuation.definition.string.begin.powerquery")]
    endPattern := some "\""
    endCaptures := [("0", some "punctuation.definition.string.end.powerquery")]
    applyEndPatternLast := true
    patterns := [word "\"\"" "constant.character.escape.quote.powerquery"] }

/-- The bundled grammar as it is written down. -/
def artifact : Artifact :=
  { name := some "PowerQuery"
    scopeName := "source.powerquery"
    fileTypes := ["pq", "pqm"]
    patterns :=
      [see "#Noise", see "#LiteralExpression", see "#Keywords", see "#ImplicitVariable",
        see "#Identifier", see "#Operators", see "#DotOperators", see "#RecordExpression",
        see "#Punctuation", see "#QuotedIdentifier"]
    repository :=
      [("BlockComment", blockComment), ("DecimalNumber", decimalNumber),
        ("DotOperators", dotOperators), ("FloatNumber", floatNumber), ("HexNumber", hexNumber),
        ("Identifier", identifier), ("ImplicitVariable", implicitVariable),
        ("IntNumber", intNumber), ("Keywords", keywords), ("LineComment", lineComment),
        ("LiteralExpression", literalExpression), ("LogicalConstant", logicalConstant),
        ("Noise", noise), ("NullConstant", nullConstant), ("NumericConstant", numericConstant),
        ("Operators", operators), ("Punctuation", punctuation),
        ("QuotedIdentifier", quotedIdentifier), ("RecordExpression", recordExpression),
        ("String", textLiteral)] }

/-- The bundled grammar, compiled. -/
def grammar : Except GrammarError Grammar := Grammar.compile artifact

end TokenConcord.Bundled
