import TokenConcord.Text.Number

/-!
# Floating point numbers in text

A decimal number is read as the nearest floating point number of 64 bits, and such a number
is written with the fewest digits that are read as the same number again. Everything is
computed on whole numbers.
-/

namespace TokenConcord

/-- The size of a finite floating point number: a mantissa of at most 53 bits times a power
of two. -/
structure Binary64 where
  mantissa : Nat
  exponent : Int
  deriving DecidableEq, Repr

namespace Binary64

/-- Power of two of the smallest numbers. -/
def minExponent : Int := -1074

/-- Zero. -/
def zero : Binary64 := ⟨0, minExponent⟩

/-- A quotient rounded to a whole number. Halves go to the even neighbour. -/
def roundDiv (num den : Nat) : Nat :=
  let quotient := num / den
  let twice := 2 * (num % den)
  if den < twice || (twice = den && quotient % 2 = 1) then quotient + 1 else quotient

/-- The number nearest to a quotient of positive numbers. -/
def ofQuotient (num den : Nat) : Binary64 :=
  let scaled (exponent : Int) : Nat × Nat :=
    (num * Nat.pow 2 (-exponent).toNat, den * Nat.pow 2 exponent.toNat)
  let guess : Int := (num.log2 : Int) - den.log2 - 53
  let (n, d) := scaled guess
  let exponent := max minExponent (if n / d < Nat.pow 2 53 then guess else guess + 1)
  let (n, d) := scaled exponent
  let mantissa := roundDiv n d
  if mantissa = Nat.pow 2 53 then ⟨Nat.pow 2 52, exponent + 1⟩ else ⟨mantissa, exponent⟩

/-- The number nearest to a whole number times a power of ten, which is not beyond the
largest one. -/
def ofDecimal (mantissa : Nat) (exponent : Int) : Binary64 :=
  if mantissa = 0 || Text.digitCount mantissa + exponent < -330 then zero
  else ofQuotient (mantissa * Nat.pow 10 exponent.toNat) (Nat.pow 10 (-exponent).toNat)

/-- The quotients of whole numbers that are nearer to a number than to any other lie between
two bounds, which are given as the first two results over the last one. -/
def bounds (x : Binary64) : Nat × Nat × Nat :=
  let narrow := x.mantissa = Nat.pow 2 52 && minExponent < x.exponent
  let low := 4 * x.mantissa - (if narrow then 1 else 2)
  let unit := Nat.pow 2 (x.exponent - 2).toNat
  (low * unit, (4 * x.mantissa + 2) * unit, Nat.pow 2 (2 - x.exponent).toNat)

/-- The multiple of a power of ten that is read as a number and is nearest to it. -/
def multiple? (x : Binary64) (exponent : Int) : Option Nat :=
  let (low, high, den) := x.bounds
  let up := Nat.pow 10 exponent.toNat * den
  let down := Nat.pow 10 (-exponent).toNat
  let value := 4 * x.mantissa * Nat.pow 2 (x.exponent - 2).toNat * down
  let reads (n : Nat) : Bool :=
    if x.mantissa % 2 = 0 then low * down ≤ n * up && n * up ≤ high * down
    else low * down < n * up && n * up < high * down
  let n := value / up
  let order := if 2 * (value % up) ≤ up then [n, n + 1] else [n + 1, n]
  order.find? reads

/-- The first multiple of a power of ten that is read as a number, with powers tried
downwards from one on. -/
def digitsFrom (x : Binary64) (exponent : Int) : Nat → Nat × Int
  | 0 => (0, 0)
  | steps + 1 =>
      match x.multiple? exponent with
      | some n => (n, exponent)
      | none => digitsFrom x (exponent - 1) steps

/-- The digits of a number and the power of ten of the last one. There are no more digits
than it takes. -/
def shortest (x : Binary64) : Nat × Int :=
  if x.mantissa = 0 then (0, 0) else x.digitsFrom 309 650

/-- A number in positional notation. There is no point behind a whole number. -/
def toText (x : Binary64) : String :=
  let (n, exponent) := x.shortest
  let digits := Nat.toDigits 10 n
  let zeros (count : Nat) : Text := List.replicate count '0'
  if 0 ≤ exponent then String.ofList (digits ++ zeros exponent.toNat)
  else
    let places := (-exponent).toNat
    let digits := zeros (places + 1 - digits.length) ++ digits
    let whole := digits.length - places
    String.ofList (digits.take whole ++ '.' :: digits.drop whole)

end Binary64

end TokenConcord
