import TokenConcord.Text.Basic
import TokenConcord.Unicode.Property

/-!
# Quoted text

Messages show a character between single quotes and a text between double quotes. What
cannot be shown as it is, and what would merge with its neighbours, is written as an
escape: a backslash and a letter for the common controls, `\u` with the hexadecimal code
point in braces for the rest.
-/

namespace TokenConcord.Text

/-- Hexadecimal digits of a number, in lower case and without leading zeros. -/
def hexDigits (n : Nat) : String :=
  String.ofList (Nat.toDigits 16 n)

/-- Written form of a character inside quotes made of `mark`. -/
def escape (mark c : Char) : String :=
  if c = '\x00' then "\\0"
  else if c = '\t' then "\\t"
  else if c = '\r' then "\\r"
  else if c = '\n' then "\\n"
  else if c = '\\' ∨ c = mark then String.ofList ['\\', c]
  else if Unicode.isGraphemeExtend c ∨ ¬ Unicode.isPrintable c then
    "\\u\x7b" ++ hexDigits c.toNat ++ "\x7d"
  else c.toString

/-- A character between single quotes. -/
def quoteChar (c : Char) : String :=
  "'" ++ escape '\'' c ++ "'"

/-- A text between double quotes. -/
def quote (text : Text) : String :=
  "\"" ++ String.join (text.map (escape '"')) ++ "\""

end TokenConcord.Text
