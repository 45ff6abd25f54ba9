/-!
# Runs of code points

A set of characters is kept as an ascending list of numbers: the first and the last code
point of every run, in turn. Looking a character up reads the runs from the lowest one and
stops at the first run that starts beyond it.
-/

namespace TokenConcord.Unicode

/-- Whether `n` lies in one of the runs. -/
def covers : List Nat → Nat → Bool
  | first :: last :: runs, n => if n < first then false else n ≤ last || covers runs n
  | _, _ => false

/-- Whether `n` lies in one of several tables of runs. -/
def coveredBy (tables : List (List Nat)) (n : Nat) : Bool :=
  tables.any (covers · n)

@[simp] theorem covers_nil (n : Nat) : covers [] n = false := rfl

@[simp] theorem coveredBy_nil (n : Nat) : coveredBy [] n = false := rfl

@[simp] theorem coveredBy_cons (table : List Nat) (tables : List (List Nat)) (n : Nat) :
    coveredBy (table :: tables) n = (covers table n || coveredBy tables n) := rfl

end TokenConcord.Unicode
