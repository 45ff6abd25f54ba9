import TokenConcord.Text.Basic

/-!
# Numbers in text

Whole numbers in any base up to sixteen, and decimal numbers with a fraction and an exponent,
which are kept as a whole number and a power of ten.
-/

namespace TokenConcord.Text

/-- Value of a digit, of which the letters may be in either case. -/
def digitValue? (c : Char) : Option Nat :=
  if '0' ≤ c && c ≤ '9' then some (c.toNat - '0'.toNat)
  else if 'a' ≤ c && c ≤ 'f' then some (c.toNat - 'a'.toNat + 10)
  else if 'A' ≤ c && c ≤ 'F' then some (c.toNat - 'A'.toNat + 10)
  else none

/-- Value of the digits of a base behind digits with a given value. -/
def digitsFrom? (base value : Nat) : Text → Option Nat
  | [] => some value
  | c :: text => do
      let digit ← digitValue? c
      if digit < base then digitsFrom? base (value * base + digit) text else none

/-- The number written in a base. There is at least one digit. -/
def natural? (base : Nat) (text : Text) : Option Nat :=
  if text.isEmpty then none else digitsFrom? base 0 text

/-- The text behind a given beginning. -/
def behind? : Text → Text → Option Text
  | [], text => some text
  | _ :: _, [] => none
  | c :: start, d :: text => if c = d then behind? start text else none

/-- The sign in front of a number, and what is left. -/
def splitSign : Text → Bool × Text
  | '-' :: text => (true, text)
  | '+' :: text => (false, text)
  | text => (false, text)

/-- A whole number in a base with an optional sign. -/
def integer? (base : Nat) (text : Text) : Option Int := do
  let (negative, digits) := splitSign text
  let n ← natural? base digits
  return if negative then -(n : Int) else n

/-- A decimal number without a sign: digits on at least one side of an optional point, and
an optional exponent. The value is the first result times that power of ten. -/
def decimal? (text : Text) : Option (Nat × Int) := do
  let whole := text.takeWhile Char.isDigit
  let rest := text.dropWhile Char.isDigit
  let (fraction, rest) := match rest with
    | '.' :: rest => (rest.takeWhile Char.isDigit, rest.dropWhile Char.isDigit)
    | rest => ([], rest)
  let mantissa ← natural? 10 (whole ++ fraction)
  let exponent ← match rest with
    | [] => some 0
    | c :: rest => if c = 'e' || c = 'E' then integer? 10 rest else none
  return (mantissa, exponent - fraction.length)

/-- Number of decimal digits, of which zero has one. -/
def digitCount (n : Nat) : Nat := (Nat.toDigits 10 n).length

/-- Whether a decimal number is nearer to a floating point number of 64 bits than to
infinity. The bound lies half a step above the largest of these numbers. -/
def isFinite64 (mantissa : Nat) (exponent : Int) : Bool :=
  let size := digitCount mantissa + exponent
  mantissa = 0 || size < 309 ||
    (size ≤ 309 &&
      mantissa * Nat.pow 10 exponent.toNat <
        (Nat.pow 2 1024 - Nat.pow 2 970) * Nat.pow 10 (-exponent).toNat)

end TokenConcord.Text
