import TokenConcord.Text.Binary64

/-!
# TOML values
-/

namespace TokenConcord.Toml

/-- A number with a fraction or an exponent. -/
inductive Real where
  | finite (negative : Bool) (size : Binary64)
  | infinite (negative : Bool)
  | nan
  deriving DecidableEq, Repr

namespace Real

/-- Whether a number is zero, with either sign. -/
def isZero : Real → Bool
  | finite _ size => size.mantissa = 0
  | _ => false

/-- A number as text. -/
def toText : Real → String
  | finite negative size => (if negative then "-" else "") ++ size.toText
  | infinite negative => if negative then "-inf" else "inf"
  | nan => "NaN"

end Real

/-- A value of a TOML document. Dates and times are kept as text. -/
inductive Value where
  | string (text : Text)
  | integer (value : Int)
  | real (value : Real)
  | boolean (value : Bool)
  | moment (text : Text)
  | array (items : List Value)
  | table (entries : List (Text × Value))

end TokenConcord.Toml
