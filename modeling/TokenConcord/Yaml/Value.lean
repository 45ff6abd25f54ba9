import TokenConcord.Text.Number
import TokenConcord.Yaml.Node

/-!
# Values of plain scalars

A plain scalar without a tag may stand for something else than its text: nothing, a truth
value or a number.
-/

namespace TokenConcord.Yaml

/-- What a plain scalar stands for. -/
inductive PlainValue where
  | null
  | boolean (value : Bool)
  | integer (value : Int)
  /-- A number with a fraction or beyond the range of integers. -/
  | real
  | text
  deriving DecidableEq, Repr

namespace PlainValue

/-- The ways to write that there is no value, of which nothing is another. -/
def isNullWord (text : Text) : Bool :=
  ["~", "null", "Null", "NULL"].any (·.toList = text)

/-- The truth value that a text stands for. -/
def boolean? (text : Text) : Option Bool :=
  if ["true", "True", "TRUE"].any (·.toList = text) then some true
  else if ["false", "False", "FALSE"].any (·.toList = text) then some false
  else none

/-- Whether a text consists of digits and starts with a zero too many, so that it is no
number. -/
def isPadded (text : Text) : Bool :=
  match (Text.splitSign text).2 with
  | '0' :: c :: rest => (c :: rest).all Char.isDigit
  | _ => false

/-- A number behind the mark of its base, which is two, eight, sixteen or, without a mark,
ten. -/
def based? (text : Text) : Option Nat :=
  match text with
  | '0' :: 'x' :: digits => Text.natural? 16 digits
  | '0' :: 'o' :: digits => Text.natural? 8 digits
  | '0' :: 'b' :: digits => Text.natural? 2 digits
  | digits => Text.natural? 10 digits

/-- The integer of at most 128 bits that a text stands for. -/
def integer? (text : Text) : Option Int := do
  if isPadded text then none
  else
    match text with
    | '-' :: rest =>
        let n ← based? rest
        if n ≤ Nat.pow 2 127 then return -(n : Int) else none
    | _ =>
        let n ← based? (match text with
          | '+' :: rest => rest
          | rest => rest)
        if n < Nat.pow 2 128 then return n else none

/-- Whether a text is one of the numbers that have no digits. -/
def isSpecialReal (text : Text) : Bool :=
  [".inf", ".Inf", ".INF", "+.inf", "+.Inf", "+.INF", "-.inf", "-.Inf", "-.INF",
    ".nan", ".NaN", ".NAN"].any (·.toList = text)

/-- Whether a text stands for a finite number. -/
def isDecimal (text : Text) : Bool :=
  (Text.decimal? (Text.splitSign text).2).any fun (m, e) => Text.isFinite64 m e

/-- What a text stands for. -/
def ofText (text : Text) : PlainValue :=
  if text.isEmpty || isNullWord text then null
  else
    match boolean? text, integer? text with
    | some value, _ => boolean value
    | none, some value => integer value
    | none, none =>
        if isSpecialReal text || (!isPadded text && isDecimal text) then real else .text

end PlainValue

end TokenConcord.Yaml
