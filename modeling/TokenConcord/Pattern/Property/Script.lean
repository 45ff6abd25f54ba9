import TokenConcord.Pattern.Property.Name
import TokenConcord.Unicode.Scripts
import TokenConcord.Unicode.SharedScripts

/-!
# Scripts by name

Every character has one script. With the characters that it shares, a script also has a wider
class: the characters that are used with it, whatever script they belong to. That class leaves
out characters of the script that are used with other scripts only.
-/

namespace TokenConcord.Pattern

open Unicode CharSet

/-- The names of a script, its code first, and its characters. -/
def script? (name : String) : Option (List String × CharSet) :=
  (Script.named.find? (·.1.contains name)).map fun (names, runs) => (names, ofRuns runs)

/-- The characters that are used with a script. -/
def scriptExtension? (name : String) : Option CharSet := do
  let (names, own) ← script? name
  let isUsed (codes : List String) : Bool := codes.any names.contains
  let (used, unused) := Script.shared.partition fun (codes, _) => isUsed codes
  return (own.diff (unions (unused.map (ofRuns ·.2)))).union (unions (used.map (ofRuns ·.2)))

end TokenConcord.Pattern
