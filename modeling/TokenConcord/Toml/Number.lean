import TokenConcord.Toml.Reader
import TokenConcord.Toml.Value

/-!
# Reading TOML: numbers and moments

Digits may be grouped by underscores. Integers have 64 bits. A date, a time of day, or both
are written back in one form, with a `T` between them and without trailing zeros in the
fraction of a second.
-/

namespace TokenConcord.Toml.Reading

/-! ## Numbers -/

/-- Digits of a base, in which single underscores may stand between digits. -/
def groupedDigits (isDigit : Char → Bool) : Reading Text := do
  let written ← takeText fun c => isDigit c || c = '_'
  let groups := (String.ofList written).splitOn "_"
  if groups.all (!·.isEmpty) then return written.filter (· != '_') else failure

/-- An optional sign, and whether it is a minus. -/
def sign : Reading Bool := do
  if ← accept '-' then return true
  else
    let _ ← accept '+'
    return false

/-- Digits of a whole number, which does not start with a zero unless it is one. -/
def wholeDigits : Reading Text := do
  if ← accept '0' then return ['0'] else groupedDigits Char.isDigit

/-- Largest size of an integer. -/
def maxInteger : Nat := Nat.pow 2 63

/-- A number behind the mark of a base. -/
def based (mark : String) (base : Nat) : Reading Int := do
  word mark
  let digits ← groupedDigits fun c => (Text.digitValue? c).any (· < base)
  let n ← (Text.natural? base digits).getM
  if n < maxInteger then return n else failure

/-- A whole number in base ten. -/
def decimal : Reading Int := do
  let negative ← sign
  let n ← (Text.natural? 10 (← wholeDigits)).getM
  if negative then
    if n ≤ maxInteger then return -(n : Int) else failure
  else if n < maxInteger then return n
  else failure

/-- An integer. -/
def integer : Reading Int := based "0x" 16 <|> based "0o" 8 <|> based "0b" 2 <|> decimal

/-- An exponent with its mark. -/
def exponent : Reading Text := do
  unless ← acceptAny "eE" do failure
  let negative ← sign
  let digits ← groupedDigits Char.isDigit
  return 'e' :: (if negative then ['-'] else []) ++ digits

/-- The point of a number and the digits behind it. -/
def fraction : Reading Text := do
  expect '.'
  return '.' :: (← groupedDigits Char.isDigit)

/-- The part of a number that makes it no integer. -/
def realPart : Reading Text :=
  exponent <|> do
    let fraction ← fraction
    let exponent ← exponent <|> pure []
    return fraction ++ exponent

/-- A number with digits. One that is too large is a fault, unless it is negative. -/
def finite : Reading Real := do
  let negative ← sign
  let whole ← wholeDigits
  let (m, e) ← (Text.decimal? (whole ++ (← realPart))).getM
  if Text.isFinite64 m e then return .finite negative (.ofDecimal m e)
  else if negative then return .infinite true
  else failure

/-- A number without digits. -/
def special : Reading Real := do
  let negative ← sign
  (do word "inf"; return .infinite negative) <|> (do word "nan"; return .nan)

/-- A number that is no integer. -/
def real : Reading Real := finite <|> special

/-! ## Moments -/

/-- A number of exactly as many digits as asked for, with its written form. -/
def digits (count : Nat) : Reading (Nat × Text) := do
  let text ← rest
  let found := text.take count
  if found.length = count && found.all Char.isDigit then
    set (text.drop count)
    return ((Text.natural? 10 found).getD 0, found)
  else failure

/-- A number of two digits in a range. -/
def twoDigits (low high : Nat) : Reading (Nat × Text) := do
  let (n, text) ← digits 2
  if low ≤ n ∧ n ≤ high then return (n, text) else failure

/-- Number of days in a month. -/
def daysIn (year month : Nat) : Nat :=
  if month = 2 then
    if year % 4 = 0 ∧ (year % 100 ≠ 0 ∨ year % 400 = 0) then 29 else 28
  else if month ∈ [4, 6, 9, 11] then 30
  else 31

/-- A date. -/
def date : Reading Text := do
  let (year, yearText) ← digits 4
  expect '-'
  let (month, monthText) ← twoDigits 1 12
  expect '-'
  let (_, dayText) ← twoDigits 1 (daysIn year month)
  return yearText ++ '-' :: monthText ++ '-' :: dayText

/-- A time of day. A minute may have a leap second, and nine digits of a fraction count. -/
def time : Reading Text := do
  let (_, hour) ← twoDigits 0 23
  expect ':'
  let (_, minute) ← twoDigits 0 59
  expect ':'
  let (_, second) ← twoDigits 0 60
  let fraction ←
    if ← accept '.' then
      let digits ← takeText Char.isDigit
      if digits.isEmpty then failure
      else pure ((digits.take 9).reverse.dropWhile (· = '0')).reverse
    else pure []
  let fraction := if fraction.isEmpty then [] else '.' :: fraction
  return hour ++ ':' :: minute ++ ':' :: second ++ fraction

/-- Offset of a time from that of Greenwich. -/
def offset : Reading Text := do
  if ← acceptAny "Zz" then return ['Z']
  else
    let negative ← if ← accept '-' then pure true else do expect '+'; pure false
    let (hours, hour) ← twoDigits 0 23
    expect ':'
    let (minutes, minute) ← twoDigits 0 59
    let mark := if negative ∧ 0 < hours + minutes then '-' else '+'
    return mark :: hour ++ ':' :: minute

/-- A time behind a date. -/
def dayTime : Reading Text := do
  unless ← acceptAny "Tt " do failure
  let time ← time
  let offset ← offset <|> pure []
  return 'T' :: time ++ offset

/-- A date, a time, or both. -/
def moment : Reading Text :=
  (do
    let date ← date
    let time ← dayTime <|> pure []
    return date ++ time) <|> time

end TokenConcord.Toml.Reading
