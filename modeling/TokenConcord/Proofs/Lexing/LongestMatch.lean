import TokenConcord.Proofs.Lexing.LineFeeds
import TokenConcord.Proofs.Lexing.Rules

/-!
# The longest match

The reference lexer passes over blanks and then emits the longest word that a rule matches. An
opener is emitted with what it opens, up to the closer. Of the rules that match the same word, a
reserved word goes before an identifier, but not where a point follows. Lexing stops where no rule
matches.
-/

namespace TokenConcord.Lexing

namespace Rule

/-- Which rule gives way where two match the same word, by the next character. Before a character
that is not ASCII it is left open which of the two does. -/
inductive Over (next : Option Char) : Rule → Rule → Prop
  | reserved {kind : Kind} : next ≠ some '.' → Over next (.reserved kind) .identifier
  | identifier {kind : Kind} {c : Char} :
      next = some c → c = '.' ∨ 128 ≤ c.toNat → Over next .identifier (.reserved kind)

/-- The rule matches the longest word at the start of the text, and goes before the other rules
that match the same word. -/
structure Leads (rule : Rule) (word rest : Text) : Prop where
  matched : rule.Matches word
  ne_nil : word ≠ []
  longest : ∀ (other : Rule) (found : Text),
    other.Matches found → found <+: word ++ rest → found.length ≤ word.length
  first : ∀ other : Rule, other.Matches word → other = rule ∨ rule.Over rest.head? other

end Rule

/-- A text of this word and this rest starts with what a rule emits as that lexeme. -/
inductive Emits : Text → Lexeme → Text → Prop
  | word {rule : Rule} {kind : Kind} {word rest : Text} :
      rule.Leads word rest → rule.kind? = some kind → Emits word (.simple kind) rest
  | closed {construct : Construct} {content rest : Text} :
      (Rule.opener construct).Leads construct.opener (content ++ (construct.closing ++ rest)) →
      construct.Unclosed content → construct = .comment ∨ ¬ QuoteNext rest →
        Emits (construct.opener ++ (content ++ construct.closing)) (construct.lexeme .closed) rest
  | opened {construct : Construct} {content : Text} :
      (Rule.opener construct).Leads construct.opener content → construct.Unclosed content →
        Emits (construct.opener ++ content) (construct.lexeme .opened) []

/-- What the lexer passes over between lexemes. -/
def blanks : List Char := [' ', '\t', '\r', '\x0c']

/-- From a byte offset on the rules emit these lexemes of a text, and the last text is left. -/
inductive Munches : Nat → Text → List LexemeSpan → Text → Prop
  | done {offset : Nat} : Munches offset [] [] []
  | stuck {offset : Nat} {c : Char} {rest : Text} :
      c ∉ blanks → (∀ (rule : Rule) (word : Text), rule.Matches word → ¬ word <+: c :: rest) →
        Munches offset (c :: rest) [] (c :: rest)
  | blank {offset : Nat} {c : Char} {rest unread : Text} {found : List LexemeSpan} :
      c ∈ blanks → Munches (offset + c.utf8Size) rest found unread →
        Munches offset (c :: rest) found unread
  | lexeme {offset : Nat} {word rest unread : Text} {lexeme : Lexeme} {found : List LexemeSpan} :
      (∀ c ∈ word.head?, c ∉ blanks) → Emits word lexeme rest →
      Munches (offset + word.width) rest found unread →
        Munches offset (word ++ rest) (⟨lexeme, offset, offset + word.width⟩ :: found) unread

variable {offset length : Nat} {word rest text content unread : Text} {found : List LexemeSpan}
  {lexeme : Lexeme} {kind : Kind} {c : Char}

theorem isBlank_iff : isBlank c = true ↔ c ∈ blanks := by
  simp [isBlank, blanks, or_assoc]

theorem isBlank_eq_false_iff : isBlank c = false ↔ c ∉ blanks := by
  rw [← isBlank_iff, Bool.not_eq_true]

namespace Rule

variable {rule : Rule}

/-- A rule leads if what others match is shorter, or is the same word and they give way. -/
theorem Leads.intro (h : rule.Matches word)
    (hothers : ∀ (other : Rule) (found : Text), other.Matches found → found <+: word ++ rest →
      found.length < word.length ∨ found = word ∧ (other = rule ∨ rule.Over rest.head? other)) :
    rule.Leads word rest := by
  refine ⟨h, h.ne_nil, fun other found hmatch hbegins => ?_, fun other hmatch => ?_⟩
  · rcases hothers other found hmatch hbegins with hshort | ⟨rfl, -⟩
    · exact hshort.le
    · exact Nat.le_refl _
  · rcases hothers other word hmatch (List.prefix_append word rest) with hshort | ⟨-, hother⟩
    · exact absurd hshort (Nat.lt_irrefl _)
    · exact hother

/-- A prefix of the text that is not longer than another one and not shorter is that one. -/
theorem lt_or_eq_of_begins {found : Text} (hbegins : found <+: word ++ rest)
    (hle : found.length ≤ word.length) : found.length < word.length ∨ found = word := by
  rcases Nat.lt_or_eq_of_le hle with hlt | heq
  · exact Or.inl hlt
  · have hin := List.prefix_of_prefix_length_le hbegins (List.prefix_append word rest) hle
    exact Or.inr (hin.eq_of_length heq)

theorem leads_opener (construct : Construct) (inner : Text) :
    (Rule.opener construct).Leads construct.opener inner := by
  have hmem : construct.opener ∈ openers := by cases construct <;> decide
  refine .intro (.opener construct) fun other found hmatch hbegins => ?_
  rcases hmatch.of_opens hmem hbegins with hshort | ⟨rfl, hin⟩ | ⟨other, rfl, rfl, hsame⟩
  · exact Or.inl hshort
  · cases hmatch with
    | lineComment => cases construct <;> exact absurd hin (by simp [Construct.opener])
  · refine Or.inr ⟨hsame, Or.inl ?_⟩
    cases construct <;> cases other <;> first | rfl | cases hsame

theorem leads_lineComment (hcontent : '\n' ∉ content) (hrest : ∀ c ∈ rest.head?, c = '\n') :
    Rule.lineComment.Leads ('/' :: '/' :: content) rest := by
  have hmem : ['/', '/'] ∈ openers := by decide
  refine .intro (.lineComment hcontent) fun other found hmatch hbegins => ?_
  rcases hmatch.of_opens hmem hbegins with hshort | ⟨rfl, -⟩ | ⟨construct, rfl, rfl, hsame⟩
  · left
    simp only [List.length_cons, List.length_nil] at hshort ⊢
    omega
  · cases hmatch with
    | @lineComment inner hinner =>
        have hinside : inner <+: content ++ rest := by
          simpa only [List.cons_append, List.cons_prefix_cons, true_and] using hbegins
        have hle : inner.length ≤ content.length := by
          by_contra hlonger
          -- What is behind the content would begin with the line feed in front of the rest.
          obtain ⟨more, rfl⟩ := List.prefix_of_prefix_length_le (List.prefix_append content rest)
            hinside (by omega)
          cases more with
          | nil => exact hlonger (by rw [List.append_nil])
          | cons c more =>
              obtain ⟨later, rfl⟩ := (List.prefix_append_right_inj content).mp hinside
              rw [hrest c rfl] at hinner
              simp at hinner
        rcases lt_or_eq_of_begins hinside hle with hlt | rfl
        · exact Or.inl (by simpa only [List.length_cons, Nat.add_lt_add_iff_right] using hlt)
        · exact Or.inr ⟨rfl, Or.inl rfl⟩
  · cases construct <;> cases hsame

/-- Where all of a name is scanned, no rule matches more, and what matches the same word is a
reserved word or an identifier. -/
theorem Matches.of_name {more found : Text} (h : rule.Matches found)
    (hbegins : found <+: c :: more ++ rest) (hname : IsName (c :: more))
    (hlength : identifierTail (more ++ rest) = more.length) :
    found.length < (c :: more).length ∨ found = c :: more ∧
      (rule = .identifier ∨ ∃ letters kind, found = letters.toList ∧
        (letters, kind) ∈ reservedWords ∧ rule = .reserved kind) := by
  have hstart : isIdentifierStart c = true := by
    obtain ⟨d, later, hword, hd⟩ := hname.exists_cons
    rw [(List.cons.inj hword).1]
    exact hd
  obtain ⟨hfound, hrule⟩ := h.of_isIdentifierStart hbegins hstart
  have hle : found.length ≤ 1 + identifierTail (more ++ rest) := (hfound.length_le hbegins).2
  rw [hlength, Nat.add_comm, ← List.length_cons] at hle
  exact (lt_or_eq_of_begins hbegins hle).imp_right fun heq => ⟨heq, hrule⟩

/-- A name that is all that is scanned is emitted with the kind that it has in front of the rest. -/
theorem exists_leads_word {more : Text} (hname : IsName (c :: more))
    (hlength : identifierTail (more ++ rest) = more.length) :
    ∃ rule : Rule, rule.Leads (c :: more) rest ∧ rule.kind? = some (wordKind (c :: more) rest) := by
  by_cases hpoint : rest.head? = some '.'
  · refine ⟨.identifier, .intro (.identifier hname) fun other found hmatch hbegins => ?_, ?_⟩
    · refine (hmatch.of_name hbegins hname hlength).imp_right fun ⟨heq, hother⟩ => ⟨heq, ?_⟩
      rcases hother with rfl | ⟨letters, kind, -, -, rfl⟩
      · exact Or.inl rfl
      · exact Or.inr (.identifier hpoint (Or.inl rfl))
    · rw [wordKind, if_pos hpoint]
      rfl
  · rw [wordKind, if_neg hpoint]
    cases hfind : reservedWords.find? (·.1.toList == c :: more) with
    | none =>
        refine ⟨.identifier, .intro (.identifier hname) fun other found hmatch hbegins => ?_, rfl⟩
        refine (hmatch.of_name hbegins hname hlength).imp_right fun ⟨heq, hother⟩ => ⟨heq, ?_⟩
        rcases hother with rfl | ⟨letters, kind, hletters, hmem, rfl⟩
        · exact Or.inl rfl
        · rw [heq] at hletters
          exact absurd (beq_iff_eq.mpr hletters.symm) (List.find?_eq_none.mp hfind _ hmem)
    | some entry =>
        obtain ⟨word, kind⟩ := entry
        have hreserved := List.mem_of_find?_eq_some hfind
        have hword : word.toList = c :: more := by simpa using List.find?_some hfind
        have hmatched : (Rule.reserved kind).Matches (c :: more) := by
          rw [← hword]
          exact .reserved hreserved
        refine ⟨.reserved kind, .intro hmatched fun other found hmatch hbegins => ?_, rfl⟩
        refine (hmatch.of_name hbegins hname hlength).imp_right fun ⟨heq, hother⟩ => ⟨heq, ?_⟩
        rcases hother with rfl | ⟨letters, kind', hletters, hmem, rfl⟩
        · exact Or.inr (.reserved hpoint)
        · rw [heq, ← hword] at hletters
          rw [← String.toList_inj.mp hletters] at hmem
          rw [reservedWords_inj hmem hreserved]
          exact Or.inl rfl

/-- A hexadecimal number that is all that is scanned is longer than the number it starts with. -/
theorem leads_hexNumber (h : IsHexNumber word)
    (hlength : hexLength (word ++ rest) = word.length) : Rule.hexNumber.Leads word rest := by
  refine .intro (matches_hexNumber_iff.mpr h) fun other found hmatch hbegins => ?_
  cases h with
  | @digits mark digits hmark hne hdigits =>
      have hopens : ¬ Opens ('0' :: mark :: (digits ++ rest)) := Quiet.not_opens (by decide) _
      rcases hmatch.of_not_isIdentifierStart hbegins hopens (by decide) with
        ⟨rfl, hnumber⟩ | ⟨rfl, hhex⟩ | ⟨letters, kind, rfl, hmem, rfl⟩
      · have hmarked : ¬ ['0', mark] <+: found := by
          rintro ⟨later, rfl⟩
          rcases hnumber.mem (c := mark) (by simp) with hdigit | hother
          · rcases hmark with rfl | rfl <;> exact absurd hdigit (by decide)
          · rcases hmark with rfl | rfl <;> exact absurd hother (by decide)
        have hshort := @length_lt_of_not_begins _ (digits ++ rest) _ hbegins hmarked
        left
        simp only [List.length_cons, List.length_nil] at hshort ⊢
        omega
      · have hle := (hhex.length_le hbegins).trans_eq hlength
        exact (lt_or_eq_of_begins hbegins hle).imp_right fun heq => ⟨heq, Or.inl rfl⟩
      · obtain ⟨c, more, hletters, -, hdigit, -⟩ := head_of_fixed hmem
        obtain ⟨behind, hbehind⟩ := hbegins
        rw [hletters] at hbehind
        rw [(List.cons.inj hbehind).1] at hdigit
        cases hdigit

theorem leads_number (h : IsNumber word) (hhex : hexLength (word ++ rest) = 0)
    (hlength : numberLength (word ++ rest) = word.length) : Rule.number.Leads word rest := by
  refine .intro (.number h) fun other found hmatch hbegins => ?_
  obtain ⟨c, more, rfl, hc⟩ := h.head
  have hscanned : numberLength (c :: (more ++ rest)) ≠ 0 := by
    rw [← List.cons_append, hlength]
    exact Nat.succ_ne_zero _
  have hquiet : Quiet c ∧ isIdentifierStart c = false := by
    rcases hc with hc | rfl
    · exact ⟨quiet_of_isDigit hc, isIdentifierStart_of_isDigit hc⟩
    · decide
  rcases hmatch.of_not_isIdentifierStart hbegins (hquiet.1.not_opens _) hquiet.2 with
    ⟨rfl, hnumber⟩ | ⟨rfl, hother⟩ | ⟨letters, kind, rfl, hmem, rfl⟩
  · have hle := (hnumber.length_le hbegins).trans_eq hlength
    exact (lt_or_eq_of_begins hbegins hle).imp_right fun heq => ⟨heq, Or.inl rfl⟩
  · exact absurd hbegins (hother.not_begins hhex)
  · -- A fixed lexeme does not start with a digit, or with a point and a digit.
    obtain ⟨behind, hbehind⟩ := hbegins
    obtain ⟨d, later, hletters, -, hdigit, hpoint⟩ := head_of_fixed hmem
    rw [hletters, List.cons_append, List.cons_append, List.cons.injEq] at hbehind
    obtain ⟨rfl, hlater⟩ := hbehind
    rcases start_of_numberLength hscanned with hd | ⟨e, tail, heq, htail, he⟩
    · rw [hd] at hdigit
      cases hdigit
    · obtain ⟨f, hf, hnot⟩ := hpoint heq
      have hhead : (later ++ behind).head? = some f := by
        rw [List.head?_append, hf]
        rfl
      rw [hlater, htail] at hhead
      cases hhead
      rw [he] at hnot
      cases hnot

theorem leads_fixed {letters : String} (h : (letters, kind) ∈ fixedLexemes)
    (hopens : ¬ Opens (letters.toList ++ rest)) (hhex : hexLength (letters.toList ++ rest) = 0)
    (hnumber : numberLength (letters.toList ++ rest) = 0)
    (hlongest : ∀ entry ∈ fixedLexemes, entry.1.toList <+: letters.toList ++ rest →
      entry.1.toList.length ≤ letters.toList.length) :
    (Rule.fixed kind).Leads letters.toList rest := by
  obtain ⟨c, more, hword, hstart, -⟩ := head_of_fixed h
  refine .intro (.fixed h) fun other found hmatch hbegins => ?_
  have hcons : letters.toList ++ rest = c :: (more ++ rest) := by rw [hword, List.cons_append]
  have hin := hbegins
  rw [hcons] at hin hopens
  rcases hmatch.of_not_isIdentifierStart hin hopens hstart with
    ⟨rfl, hother⟩ | ⟨rfl, hother⟩ | ⟨letters', kind', rfl, hmem, rfl⟩
  · exact absurd hbegins (hother.not_begins hnumber)
  · exact absurd hbegins (hother.not_begins hhex)
  · refine (lt_or_eq_of_begins hbegins (hlongest _ hmem hbegins)).imp_right
      fun heq => ⟨heq, Or.inl ?_⟩
    rw [String.toList_inj.mp heq] at hmem
    rw [fixedLexemes_inj hmem h]

end Rule

/-! ## Every lexeme is a longest match -/

/-- What the reference lexer takes for the first lexeme of code is a longest match. -/
theorem emits_code {more : Text} (hopens : ¬ Opens (c :: (more ++ rest)))
    (h : firstLexeme? (c :: (more ++ rest)) = some (lexeme, (c :: more).length)) :
    Emits (c :: more) lexeme rest := by
  rw [firstLexeme?_plain hopens] at h
  split at h
  next hstart =>
    obtain ⟨hlexeme, hlength⟩ := Prod.mk.inj (Option.some.inj h)
    rw [← List.cons_append, hlength, List.take_left, List.drop_left] at hlexeme
    have htail : identifierTail (more ++ rest) = more.length := by
      rw [List.length_cons] at hlength
      omega
    have hname : IsName (c :: more) := by
      have hsegment : IsName [c] :=
        .segment (isIdentifierStart_iff.mp hstart) fun d hmem => absurd hmem List.not_mem_nil
      have hword := hsegment.append_take (more ++ rest)
      rwa [htail, List.take_left] at hword
    obtain ⟨rule, hleads, hkind⟩ := Rule.exists_leads_word hname htail
    rw [← hlexeme]
    exact .word hleads hkind
  next hstart =>
    rw [Bool.not_eq_true] at hstart
    split at h
    next hhex =>
      obtain ⟨hlexeme, hlength⟩ := Prod.mk.inj (Option.some.inj h)
      obtain ⟨word, behind, hsplit, hnumber, hscanned⟩ := exists_hexNumber hhex
      obtain ⟨rfl, rfl⟩ := List.append_inj (hsplit.symm.trans (List.cons_append ..).symm)
        (hscanned.symm.trans hlength)
      rw [← hlexeme]
      exact .word (Rule.leads_hexNumber hnumber hlength) rfl
    next hhex =>
      rw [not_not] at hhex
      split at h
      next hscan =>
        obtain ⟨hlexeme, hlength⟩ := Prod.mk.inj (Option.some.inj h)
        obtain ⟨word, behind, hsplit, hnumber, hscanned⟩ := exists_number hscan
        obtain ⟨rfl, rfl⟩ := List.append_inj (hsplit.symm.trans (List.cons_append ..).symm)
          (hscanned.symm.trans hlength)
        rw [← hlexeme]
        exact .word (Rule.leads_number hnumber hhex hlength) rfl
      next hscan =>
        rw [not_not] at hscan
        obtain ⟨letters, kind, behind, hmem, hsplit, hlexeme, hlength, hlongest⟩ :=
          fixedLexeme?_longest h
        obtain ⟨hword, rfl⟩ := List.append_inj (hsplit.symm.trans (List.cons_append ..).symm)
          hlength.symm
        rw [hlexeme, ← hword]
        rw [hsplit] at hopens hhex hscan hlongest
        rw [hlength] at hlongest
        exact .word (Rule.leads_fixed hmem hopens hhex hscan hlongest) rfl

theorem Starts.emits (h : Starts word lexeme rest)
    (hfirst : firstLexeme? (word ++ rest) = some (lexeme, word.length)) : Emits word lexeme rest := by
  cases h with
  | closed hcontent =>
      obtain ⟨hunclosed, hrest⟩ := Construct.content?_closed_iff.mp hcontent
      exact .closed (Rule.leads_opener _ _) hunclosed hrest
  | opened hcontent =>
      exact .opened (Rule.leads_opener _ _) (Construct.content?_eq_none_iff.mp hcontent)
  | simple hne _ _ =>
      by_cases hopens : Opens (word ++ rest)
      · by_cases hcomment : ['/', '/'] <+: word ++ rest
        · obtain ⟨hlexeme, ⟨content, rfl, hcontent⟩, hfeed⟩ := split_lineComment hfirst hcomment
          rw [hlexeme]
          exact .word (Rule.leads_lineComment hcontent hfeed) rfl
        · obtain ⟨construct, inner, hinner⟩ := exists_construct hopens hcomment
          rw [hinner] at hfirst
          exact absurd hfirst Construct.firstLexeme?_ne_simple
      · obtain ⟨c, more, rfl⟩ := List.exists_cons_of_ne_nil hne
        exact emits_code hopens hfirst

/-- Where the reference lexer finds no lexeme, no rule matches. -/
theorem not_begins_of_firstLexeme? {rule : Rule} (h : firstLexeme? (c :: text) = none)
    (hmatch : rule.Matches word) : ¬ word <+: c :: text := by
  intro hbegins
  by_cases hopens : Opens (c :: text)
  · by_cases hcomment : ['/', '/'] <+: c :: text
    · obtain ⟨inner, hinner⟩ := hcomment
      rw [← hinner] at h
      cases h
    · obtain ⟨construct, inner, hinner⟩ := exists_construct hopens hcomment
      rw [hinner, Construct.firstLexeme?_opener] at h
      cases h
  · rw [firstLexeme?_plain hopens] at h
    split at h
    next => cases h
    next hstart =>
      rw [Bool.not_eq_true] at hstart
      split at h
      next => cases h
      next hhex =>
        split at h
        next => cases h
        next hscan =>
          rw [not_not] at hhex hscan
          rcases hmatch.of_not_isIdentifierStart hbegins hopens hstart with
            ⟨-, hnumber⟩ | ⟨-, hnumber⟩ | ⟨letters, kind, rfl, hmem, -⟩
          · exact hnumber.not_begins hscan hbegins
          · exact hnumber.not_begins hhex hbegins
          · exact fixedLexeme?_eq_none h _ hmem hbegins

theorem Reading.munches (h : Reading offset text found unread) :
    Munches offset text found unread := by
  induction h with
  | done => exact .done
  | stuck hblank hfirst =>
      exact .stuck (isBlank_eq_false_iff.mp hblank) fun _ _ => not_begins_of_firstLexeme? hfirst
  | blank hblank _ ih => exact .blank (isBlank_iff.mp hblank) ih
  | lexeme hblank hfirst hstarts _ ih =>
      have hword := fun c hc => isBlank_eq_false_iff.mp (hblank c hc)
      exact .lexeme hword (hstarts.emits hfirst) ih

/-- The lexemes of any text are its longest matches, one after another with blanks between them,
and what is left of the text is where no rule matches. -/
theorem munches_lexemes (text : Text) : Munches 0 text (lexemes text).1 (lexemes text).2 :=
  (reading_lexemesFrom 0 text).munches

/-- A comment ends at the first closer, a star in front of it or not, and a text literal without
a closing quote takes the rest. -/
theorem munches_lexemes_constructs :
    Munches 0 ['i', 'f', ' ', '/', '*', '.', '*', '*', '/', '"', 'x', '"', '"']
      [⟨.simple .keywordIf, 0, 2⟩, ⟨.blockComment .closed, 3, 9⟩, ⟨.text .opened, 9, 13⟩] [] := by
  have hlexemes : lexemes ['i', 'f', ' ', '/', '*', '.', '*', '*', '/', '"', 'x', '"', '"'] =
      ([⟨.simple .keywordIf, 0, 2⟩, ⟨.blockComment .closed, 3, 9⟩, ⟨.text .opened, 9, 13⟩], []) := by
    decide
  have h := munches_lexemes ['i', 'f', ' ', '/', '*', '.', '*', '*', '/', '"', 'x', '"', '"']
  rwa [hlexemes] at h

end TokenConcord.Lexing
