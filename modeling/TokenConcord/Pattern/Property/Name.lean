import TokenConcord.Pattern.CharSet
import TokenConcord.Text.Basic

/-!
# Names of properties

Names are compared without regard to case, spaces, hyphens and low lines.
-/

namespace TokenConcord.Pattern

/-- A property name as it is compared: lower case, without separators, without a leading
"is", and without characters beyond ASCII. The "is" stays where only a c would be left, which
would name a general category. -/
def normalizeName (name : Text) : String :=
  let hasIs := name.length ≥ 2 ∧ (name.take 2).map Char.toLower = ['i', 's']
  let body := if hasIs then name.drop 2 else name
  let kept := (body.filter fun c => c.toNat < 128 && c != ' ' && c != '_' && c != '-').map
    Char.toLower
  String.ofList (if hasIs ∧ kept = ['c'] then "isc".toList else kept)

/-- The class listed under a normalized name. -/
def lookUp (classes : List (List String × CharSet)) (name : String) : Option CharSet :=
  (classes.find? (·.1.contains name)).map (·.2)

end TokenConcord.Pattern
