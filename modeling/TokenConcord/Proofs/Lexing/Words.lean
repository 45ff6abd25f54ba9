import Mathlib.Data.List.Find
import TokenConcord.Proofs.Lexing.Numbers

/-!
# Words and fixed lexemes

Identifiers of ASCII segments, reserved words and fixed lexemes. The reference lexer takes each
of them as it stands where what follows cannot go on with it.
-/

namespace TokenConcord.Lexing

variable {segment more rest : Text} {word : String} {kind : Kind}

/-! ## Identifiers -/

/-- A letter or an underscore with letters, digits and underscores behind it. -/
def IsSegment : Text → Prop
  | [] => False
  | c :: text => isAsciiStart c = true ∧ ∀ d ∈ text, isAsciiPart d = true

instance : DecidablePred IsSegment
  | [] => inferInstanceAs (Decidable False)
  | _ :: _ => inferInstanceAs (Decidable (_ ∧ _))

/-- Further segments, each behind a point. -/
inductive AreSegments : Text → Prop
  | nil : AreSegments []
  | cons {segment more : Text} :
      IsSegment segment → AreSegments more → AreSegments ('.' :: (segment ++ more))

/-- Characters that could go on with a word. -/
def inWord (c : Char) : Bool := isIdentifierPart c || c == '.'

theorem isAsciiPart_of_isAsciiStart {c : Char} (h : isAsciiStart c = true) :
    isAsciiPart c = true := by
  simp only [isAsciiStart, isAsciiPart, Char.isAlphanum, Bool.or_eq_true] at h ⊢
  exact h.elim (fun halpha => Or.inl (Or.inl halpha)) Or.inr

theorem lt_of_isAsciiPart {c : Char} (h : isAsciiPart c = true) : c.toNat < 128 := by
  simp only [isAsciiPart, Char.isAlphanum, Bool.or_eq_true, beq_iff_eq] at h
  rcases h with (halpha | hdigit) | rfl
  · rcases (Bool.or_eq_true c.isUpper c.isLower).mp halpha with hupper | hlower
    · have hle : c.toNat ≤ 90 := (of_decide_eq_true hupper).2
      omega
    · have hle : c.toNat ≤ 122 := of_decide_eq_true ((Bool.and_eq_true _ _).mp hlower).2
      omega
  · exact lt_of_isDigit hdigit
  · decide

theorem isIdentifierPart_of_isAsciiPart {c : Char} (h : isAsciiPart c = true) :
    isIdentifierPart c = true := by
  rw [isIdentifierPart_ascii (lt_of_isAsciiPart h), h]

theorem isIdentifierStart_of_isAsciiStart {c : Char} (h : isAsciiStart c = true) :
    isIdentifierStart c = true := by
  rw [isIdentifierStart_ascii (lt_of_isAsciiPart (isAsciiPart_of_isAsciiStart h)), h]

theorem IsSegment.exists_cons (h : IsSegment segment) :
    ∃ c text, segment = c :: text ∧ isAsciiStart c = true ∧ ∀ d ∈ text, isAsciiPart d = true := by
  cases segment with
  | nil => exact h.elim
  | cons c text => exact ⟨c, text, rfl, h.1, h.2⟩

theorem identifierTail_stop (h : StopsAt inWord rest) : identifierTail rest = 0 := by
  cases rest with
  | nil => rfl
  | cons c rest =>
      have hc := h c rfl
      simp only [inWord, Bool.or_eq_false_iff, beq_eq_false_iff_ne] at hc
      unfold identifierTail
      rw [hc.1, if_neg hc.2]
      rfl

theorem identifierTail_all {parts : Text} (h : ∀ d ∈ parts, isIdentifierPart d = true)
    (rest : Text) : identifierTail (parts ++ rest) = parts.length + identifierTail rest := by
  induction parts with
  | nil => exact (Nat.zero_add _).symm
  | cons c parts ih =>
      obtain ⟨hc, hparts⟩ := List.forall_mem_cons.mp h
      rw [List.cons_append, identifierTail.eq_def]
      dsimp only
      rw [if_pos hc, ih hparts, List.length_cons]
      omega

theorem identifierTail_parts {text : Text} (h : ∀ d ∈ text, isAsciiPart d = true) (rest : Text) :
    identifierTail (text ++ rest) = text.length + identifierTail rest :=
  identifierTail_all (fun d hd => isIdentifierPart_of_isAsciiPart (h d hd)) rest

theorem identifierTail_segments (h : AreSegments more) (hrest : StopsAt inWord rest) :
    identifierTail (more ++ rest) = more.length := by
  induction h with
  | nil => exact identifierTail_stop hrest
  | @cons segment more hsegment _ ih =>
      obtain ⟨c, text, rfl, hc, htext⟩ := hsegment.exists_cons
      have hpoint : isIdentifierPart '.' = false := by decide
      rw [List.cons_append, List.append_assoc, List.cons_append]
      unfold identifierTail
      rw [hpoint, if_neg Bool.false_ne_true, if_pos rfl]
      dsimp only
      rw [isIdentifierStart_of_isAsciiStart hc, if_pos rfl, identifierTail_parts htext, ih]
      simp only [List.length_cons, List.length_append]
      omega

/-! ## Words as lexemes -/

/-- A word of one segment or more is read as a whole. -/
theorem firstLexeme?_word (hsegment : IsSegment segment) (hmore : AreSegments more)
    (hrest : StopsAt inWord rest) :
    firstLexeme? (segment ++ more ++ rest) =
      some (.simple (wordKind (segment ++ more) rest), (segment ++ more).length) := by
  obtain ⟨c, text, rfl, hc, htext⟩ := hsegment.exists_cons
  have hstart := isIdentifierStart_of_isAsciiStart hc
  have hlength : 1 + identifierTail (text ++ (more ++ rest)) = (c :: text ++ more).length := by
    rw [identifierTail_parts htext, identifierTail_segments hmore hrest]
    simp only [List.length_cons, List.length_append]
    omega
  have hsplit : c :: (text ++ (more ++ rest)) = (c :: text ++ more) ++ rest := by simp
  rw [List.append_assoc, List.cons_append,
    firstLexeme?_plain ((quiet_of_isIdentifierStart hstart).not_opens _), hstart, if_pos rfl]
  dsimp only
  rw [hlength, hsplit, List.take_left, List.drop_left]

theorem wordKind_of_stops (hrest : StopsAt inWord rest) (text : Text) :
    wordKind text rest =
      ((reservedWords.find? (·.1.toList == text)).map (·.2)).getD .identifier := by
  have hpoint : rest.head? ≠ some '.' := fun hhead => absurd (hrest _ hhead) (by decide)
  rw [wordKind, if_neg hpoint]

/-- Reserved words are words of one segment, and each stands for its own kind. -/
theorem reservedWords_spec : ∀ entry ∈ reservedWords, IsSegment entry.1.toList ∧
    '.' ∉ entry.1.toList ∧
      reservedWords.find? (·.1.toList == entry.1.toList) = some entry := by
  decide

/-- A reserved word is read as what it stands for. -/
theorem firstLexeme?_reserved (h : (word, kind) ∈ reservedWords) (hrest : StopsAt inWord rest) :
    firstLexeme? (word.toList ++ rest) = some (.simple kind, word.toList.length) := by
  obtain ⟨hsegment, _, hfind⟩ := reservedWords_spec _ h
  have hfirst := firstLexeme?_word hsegment .nil hrest
  rwa [List.append_nil, wordKind_of_stops hrest, hfind] at hfirst

/-- No reserved word starts with an unreserved segment that other segments follow. -/
theorem reserved_ne (hreserved : ∀ entry ∈ reservedWords, segment ≠ entry.1.toList)
    (hmore : AreSegments more) : ∀ entry ∈ reservedWords, segment ++ more ≠ entry.1.toList := by
  intro entry hmem heq
  cases hmore with
  | nil => exact hreserved entry hmem (by rwa [List.append_nil] at heq)
  | cons _ _ =>
      refine (reservedWords_spec entry hmem).2.1 ?_
      rw [← heq]
      simp

/-- A word whose first segment is not reserved is an identifier. -/
theorem firstLexeme?_identifier (hsegment : IsSegment segment)
    (hreserved : ∀ entry ∈ reservedWords, segment ≠ entry.1.toList) (hmore : AreSegments more)
    (hrest : StopsAt inWord rest) :
    firstLexeme? (segment ++ more ++ rest) =
      some (.simple .identifier, (segment ++ more).length) := by
  have hnone : reservedWords.find? (·.1.toList == segment ++ more) = none :=
    List.find?_eq_none.mpr fun entry hmem heq =>
      reserved_ne hreserved hmore entry hmem (beq_iff_eq.mp heq).symm
  rw [firstLexeme?_word hsegment hmore hrest, wordKind_of_stops hrest, hnone]
  rfl

/-! ## Fixed lexemes -/

/-- What words and numbers do not start with. -/
def startsOperator : Text → Bool
  | [] => false
  | [c] => !isIdentifierStart c && !c.isDigit && c != '.'
  | c :: d :: _ => !isIdentifierStart c && !c.isDigit && (c != '.' || !d.isDigit)

/-- The characters with which an opener or a fixed lexeme goes on behind a text. -/
def extensions (text : Text) : List Char :=
  (openers ++ fixedLexemes.map (·.1.toList)).filterMap fun other =>
    if text <+: other then other[text.length]? else none

/-- No fixed lexeme that comes before one in the list starts it, and no other lexeme does. -/
theorem fixedLexemes_spec : ∀ entry ∈ fixedLexemes,
    fixedLexemes.find? (·.1.toList.isPrefixOf entry.1.toList) = some entry ∧
      startsOperator entry.1.toList = true ∧ ∀ opener ∈ openers, ¬ opener <+: entry.1.toList := by
  decide

/-- A text that begins another one begins it as well where nothing of its own goes on behind. -/
theorem prefix_append_iff {other text : Text}
    (h : ∀ c, text <+: other → other[text.length]? = some c → rest.head? ≠ some c) :
    other <+: text ++ rest ↔ other <+: text := by
  refine ⟨fun hother => ?_, fun hother => hother.trans (List.prefix_append text rest)⟩
  rcases List.prefix_or_prefix_of_prefix hother (List.prefix_append text rest) with hin | hout
  · exact hin
  · obtain ⟨tail, rfl⟩ := hout
    cases tail with
    | nil => exact ⟨[], by simp⟩
    | cons c tail =>
        have htail : c :: tail <+: rest := (List.prefix_append_right_inj text).mp hother
        obtain ⟨more, rfl⟩ := htail
        exact absurd rfl (h c (List.prefix_append text _) (by simp))

theorem prefix_append_of_stops {other text : Text}
    (hother : other ∈ openers ++ fixedLexemes.map (·.1.toList))
    (hrest : StopsAt (extensions text).contains rest) :
    other <+: text ++ rest ↔ other <+: text := by
  refine prefix_append_iff fun c hin hc hhead => ?_
  have hmem : c ∈ extensions text :=
    List.mem_filterMap.mpr ⟨other, hother, by rw [if_pos hin, hc]⟩
  have hstop := hrest c hhead
  rw [List.contains_iff_mem.mpr hmem] at hstop
  cases hstop

theorem fixedLexeme?_append (h : (word, kind) ∈ fixedLexemes)
    (hrest : StopsAt (extensions word.toList).contains rest) :
    fixedLexeme? (word.toList ++ rest) = some (.simple kind, word.toList.length) := by
  have hsame : ∀ entry ∈ fixedLexemes, entry.1.toList.isPrefixOf (word.toList ++ rest) =
      entry.1.toList.isPrefixOf word.toList := by
    intro entry hmem
    have hother : entry.1.toList ∈ openers ++ fixedLexemes.map (·.1.toList) :=
      List.mem_append_right _ (List.mem_map_of_mem hmem)
    refine Bool.eq_iff_iff.mpr ?_
    rw [List.isPrefixOf_iff_prefix, List.isPrefixOf_iff_prefix]
    exact prefix_append_of_stops hother hrest
  have hfind : fixedLexemes.find? (·.1.toList.isPrefixOf (word.toList ++ rest)) =
      some (word, kind) := by
    rw [← (fixedLexemes_spec _ h).1]
    exact List.find?_congr hsame
  rw [fixedLexeme?, hfind]
  rfl

theorem firstLexeme?_of_startsOperator {text : Text} (h : startsOperator text = true)
    (hopens : ¬ Opens (text ++ rest)) : firstLexeme? (text ++ rest) = fixedLexeme? (text ++ rest) := by
  cases text with
  | nil => cases h
  | cons c more =>
      have hc : isIdentifierStart c = false ∧ c.isDigit = false := by
        cases more <;> simp_all [startsOperator]
      have hfraction : fractionLength (c :: (more ++ rest)) = 0 := by
        cases more with
        | nil =>
            have hpoint : c ≠ '.' := by simp_all [startsOperator]
            rw [fractionLength, if_neg hpoint]
        | cons d more =>
            have hdigit : c = '.' → d.isDigit = false := by
              rintro rfl
              simp_all [startsOperator]
            rw [List.cons_append, fractionLength]
            split
            next hpoint => simp [countWhile, hdigit hpoint]
            next => rfl
      have hhex : hexLength (c :: (more ++ rest)) = 0 := by
        have hzero : c ≠ '0' := by
          rintro rfl
          cases hc.2
        unfold hexLength
        split
        next heq => exact absurd (List.cons.inj heq).1 hzero
        next => rfl
      have hnumber : numberLength (c :: (more ++ rest)) = 0 := by
        have hcount : countWhile Char.isDigit (c :: (more ++ rest)) = 0 := by
          simp [countWhile, hc.2]
        rw [numberLength, hcount, List.drop_zero, hfraction]
        rfl
      rw [List.cons_append] at hopens ⊢
      rw [firstLexeme?_plain hopens, hc.1, hhex, hnumber]
      rfl

/-- A fixed lexeme is read where neither an opener nor another one goes on behind it. -/
theorem firstLexeme?_fixed (h : (word, kind) ∈ fixedLexemes)
    (hrest : StopsAt (extensions word.toList).contains rest) :
    firstLexeme? (word.toList ++ rest) = some (.simple kind, word.toList.length) := by
  obtain ⟨_, hstarts, hopeners⟩ := fixedLexemes_spec _ h
  have hopens : ¬ Opens (word.toList ++ rest) := by
    rintro ⟨opener, hmem, hopener⟩
    exact hopeners opener hmem
      ((prefix_append_of_stops (List.mem_append_left _ hmem) hrest).mp hopener)
  rw [firstLexeme?_of_startsOperator hstarts hopens, fixedLexeme?_append h hrest]

end TokenConcord.Lexing
