import TokenConcord.Pattern.Parser.Escape

/-!
# Reading patterns: bracketed classes

A bracketed class lists characters, ranges and other classes. Double signs between two lists
stand for intersection, difference and symmetric difference; they bind equally and to the
left. A bracket right behind the opening one, and hyphens there, are characters.
-/

namespace TokenConcord.Pattern

/-- Operations between two lists of a class. -/
inductive ClassOperator where
  | intersection | difference | symmetricDifference

/-- Part of a class with the depth to which it is nested. -/
structure ClassPart where
  set : CharSet
  depth : Nat

/-- The parts of a list, taken together. The latest part stands first. -/
def ClassPart.join : List ClassPart → ClassPart
  | [] => ⟨.none, 0⟩
  | [part] => part
  | parts =>
      ⟨.unions (parts.reverse.map (·.set)), 1 + (parts.map (·.depth)).foldl max 0⟩

/-- The two sides of an operation, each under the flags in force. -/
def ClassOperator.combine (operator : ClassOperator) (left right : CharSet) : CharSet :=
  match operator with
  | intersection => .inter left right
  | difference => .diff left right
  | symmetricDifference => .symDiff left right

namespace Reading

/-- The operation that the text starts with. -/
def operator? : Text → Option ClassOperator
  | '&' :: '&' :: _ => some .intersection
  | '-' :: '-' :: _ => some .difference
  | '~' :: '~' :: _ => some .symmetricDifference
  | _ => none

/-- Finish the right side of the operation that is pending, if one is. -/
def settle (pending : Option (ClassOperator × ClassPart)) (parts : List ClassPart) :
    Reading ClassPart := do
  let right := ClassPart.join parts
  match pending with
  | none => return right
  | some (operator, left) =>
      let set := operator.combine (← underFlags left.set) (← underFlags right.set)
      return ⟨set, 1 + max left.depth right.depth⟩

/-- A named class of ASCII characters such as `[:alpha:]`, with its length. -/
def asciiClass? (text : Text) : Option (CharSet × Bool × Nat) :=
  match text with
  | '[' :: ':' :: inner =>
      let negated := inner.head? = some '^'
      let body := if negated then inner.drop 1 else inner
      let name := body.takeWhile (· != ':')
      if [':', ']'].isPrefixOf (body.drop name.length) then
        (lookUp asciiClasses (String.ofList name)).map fun s =>
          (s, negated, text.length - body.length + name.length + 2)
      else none
  | _ => none

/-- A character or an escape inside a class. Without all characters at hand, a character has
to be one of ASCII. -/
def classItem : Reading Primitive := do
  let c ← require .unclosedClass
  let item ← if c = '\\' then escape else skip 1 *> pure (.literal c)
  match item with
  | .literal c => if !(← flags).unicode ∧ 128 ≤ c.toNat then throw .beyondAscii
  | _ => pure ()
  return item

/-- A character at the end of a range. -/
def rangeEnd : Primitive → Reading Char
  | .literal c => return c
  | _ => throw .invalidRange

/-- The character that decides whether the hyphen before a text makes a range. In verbose mode
white space is passed over, and the sign of a comment too, but not the comment. -/
def lookBehind (verbose : Bool) (text : Text) : Option Char :=
  if verbose then
    match text.dropWhile Unicode.isWhiteSpace with
    | '#' :: text => (text.dropWhile Unicode.isWhiteSpace).head?
    | text => text.head?
  else text.head?

/-- A single item of a class, or a range of characters. -/
def classRange : Reading ClassPart := do
  let first ← classItem
  space
  let c ← require .unclosedClass
  let behind := lookBehind (← flags).verbose ((← rest).drop 1)
  if c ≠ '-' ∨ behind = some ']' ∨ behind = some '-' then
    match first with
    | .literal c => return ⟨.single c, 0⟩
    | .set s => return ⟨s, 0⟩
    | .look _ => throw .invalidEscape
  else
    skipSpaced
    let last ← classItem
    let first ← rangeEnd first
    let last ← rangeEnd last
    if first ≤ last then return ⟨.between first last, 0⟩ else throw .invalidRange

/-- Hyphens that open a list. -/
def leadingHyphens (parts : List ClassPart) : Nat → Reading (List ClassPart)
  | 0 => return parts
  | fuel + 1 => do
      if (← require .unclosedClass) = '-' then
        skipSpaced
        leadingHyphens (⟨.single '-', 0⟩ :: parts) fuel
      else return parts

/-- The opening bracket of a class: whether the class is negated, and the first parts. -/
def classOpening : Reading (Bool × List ClassPart) := do
  skipSpaced
  let negated := (← require .unclosedClass) = '^'
  if negated then skipSpaced
  let parts ← leadingHyphens [] ((← rest).length + 1)
  if parts.isEmpty ∧ (← require .unclosedClass) = ']' then
    skipSpaced
    return (negated, [⟨.single ']', 0⟩])
  return (negated, parts)

/-- The rest of a class behind `parts` and the operation before them, through the closing
bracket. -/
def classRest (negated : Bool) (pending : Option (ClassOperator × ClassPart))
    (parts : List ClassPart) : Nat → Reading ClassPart
  | 0 => throw .tooDeep
  | fuel + 1 => do
      space
      let c ← require .unclosedClass
      if c = '[' then
        match asciiClass? (← rest) with
        | some (s, negatedInner, length) =>
            skip length
            let s ← underFlagsNegated negatedInner s
            classRest negated pending (⟨s, 0⟩ :: parts) fuel
        | none =>
            let (negatedInner, opening) ← classOpening
            let inner ← classRest negatedInner none opening fuel
            classRest negated pending (inner :: parts) fuel
      else if c = ']' then
        skip 1
        let whole ← settle pending parts
        return ⟨← underFlagsNegated negated whole.set, whole.depth + 1⟩
      else
        match operator? (← rest) with
        | some operator =>
            skip 2
            let left ← settle pending parts
            classRest negated (some (operator, left)) [] fuel
        | none =>
            let part ← classRange
            classRest negated pending (part :: parts) fuel

/-- A class, from its opening bracket on. -/
def bracketed : Reading ClassPart := do
  let (negated, opening) ← classOpening
  classRest negated none opening ((← rest).length + 1)

end Reading

end TokenConcord.Pattern
