import TokenConcord.Pattern.Property.Binary
import TokenConcord.Pattern.Property.Break
import TokenConcord.Pattern.Property.Category
import TokenConcord.Pattern.Property.Name
import TokenConcord.Pattern.Property.Script
import TokenConcord.Unicode.Age

/-!
# Character classes by name

The names under which a pattern refers to properties of characters and to the bracketed
classes of ASCII characters.
-/

namespace TokenConcord.Pattern

open Unicode CharSet

/-- The characters with a property, a general category or a script of that name. -/
def property? (name : Text) : Option CharSet :=
  let name := normalizeName name
  (lookUp binaryProperties name).orElse fun _ =>
    (lookUp generalCategories name).orElse fun _ => (script? name).map (·.2)

/-- Whether a normalized name is that of a version: its number, or its digits behind a v. -/
def isVersionName (version name : String) : Bool :=
  name == version || name.toList == 'v' :: version.toList.filter (· != '.')

/-- The code points assigned by a version or before it. -/
def age? (name : String) : Option CharSet :=
  let versions := Age.versions.map (·.1)
  (versions.findIdx? (isVersionName · name)).map fun index =>
    ofTables ((Age.versions.take (index + 1)).map (·.2))

/-- The characters whose property of one name has the value of another name. -/
def propertyValue? (name value : Text) : Option CharSet :=
  let value := normalizeName value
  match normalizeName name with
  | "gc" | "generalcategory" => lookUp generalCategories value
  | "sc" | "script" => (script? value).map (·.2)
  | "scx" | "scriptextensions" => scriptExtension? value
  | "age" => age? value
  | "gcb" | "graphemeclusterbreak" => lookUp clusterBreaks value
  | "wb" | "wordbreak" => lookUp wordBreaks value
  | "sb" | "sentencebreak" => lookUp sentenceBreaks value
  | _ => Option.none

/-- Classes of ASCII characters. -/
def asciiClasses : List (List String × CharSet) :=
  let lower := between 'a' 'z'
  let upper := between 'A' 'Z'
  let digit := between '0' '9'
  [(["alnum"], unions [digit, upper, lower]),
    (["alpha"], union upper lower),
    (["ascii"], range 0 127),
    (["blank"], union (single '\t') (single ' ')),
    (["cntrl"], union (range 0 31) (range 127 127)),
    (["digit"], digit),
    (["graph"], between '!' '~'),
    (["lower"], lower),
    (["print"], between ' ' '~'),
    (["punct"], unions [between '!' '/', between ':' '@', range 0x5B 0x60,
      between '\x7b' '~']),
    (["space"], union (range 9 13) (single ' ')),
    (["upper"], upper),
    (["word"], unions [digit, upper, single '_', lower]),
    (["xdigit"], unions [digit, between 'A' 'F', between 'a' 'f'])]

end TokenConcord.Pattern
