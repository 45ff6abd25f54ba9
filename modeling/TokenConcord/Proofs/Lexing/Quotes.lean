import TokenConcord.Proofs.Lexing.Reading
import TokenConcord.Proofs.Text.Bytes

/-!
# The quote that closes

A quote is one byte, and no other character has that byte, so the closing quote can be looked for
in the bytes of a text, with steps of one byte and, past a doubled quote, of two. It stands where
quoted text ends: at the first quote in front of which all quotes are doubled and that no other one
follows. So a text with each quote doubled is read between two quotes as it was written.
-/

namespace TokenConcord.Lexing

variable {text rest content : Text} {offset : Nat}

/-! ## The closing quote in a text -/

theorem closingQuote?_eq_some_iff :
    closingQuote? text = some offset ↔
      ∃ content rest, text = content ++ '"' :: rest ∧ ¬ QuoteNext rest ∧ Quoted content ∧
        content.width = offset := by
  rw [closingQuote?, Option.map_eq_some_iff]
  constructor
  · rintro ⟨content, hcontent, hwidth⟩
    obtain ⟨hquoted, rest, htext, hrest⟩ := quotedContent?_eq_some hcontent
    exact ⟨content, rest, htext, hrest, hquoted, hwidth⟩
  · rintro ⟨content, rest, rfl, hrest, hquoted, hwidth⟩
    exact ⟨content, hquoted.quotedContent? hrest, hwidth⟩

theorem closingQuote?_eq_none_iff : closingQuote? text = none ↔ Quoted text := by
  rw [closingQuote?, Option.map_eq_none_iff]
  exact ⟨quotedContent?_eq_none, Quoted.quotedContent?_eq_none⟩

/-! ## Quotes among the bytes -/

/-- The byte of a quote. -/
def quoteByte : UInt8 := 0x22

theorem eq_quote_of_mem {c : Char} (h : quoteByte ∈ String.utf8EncodeChar c) : c = '"' :=
  Char.toNat_inj.mp (Text.toNat_of_mem_utf8EncodeChar h (by decide))

/-- The bytes of a text begin with a quote if the text does. -/
theorem head?_bytes_iff : text.bytes[0]? = some quoteByte ↔ QuoteNext text := by
  cases text with
  | nil => exact iff_of_false (fun h => by cases h) fun h => by cases h
  | cons c text =>
      have hne : String.utf8EncodeChar c ≠ [] := String.utf8EncodeChar_ne_nil
      obtain ⟨byte, bytes, hbytes⟩ := List.exists_cons_of_ne_nil hne
      constructor
      · intro h
        have hmem : quoteByte ∈ String.utf8EncodeChar c := by
          simp only [Text.bytes_cons, hbytes, List.cons_append, List.getElem?_cons_zero] at h
          rw [hbytes, Option.some.inj h]
          exact List.mem_cons_self
        rw [eq_quote_of_mem hmem]
        rfl
      · intro h
        obtain rfl : c = '"' := Option.some.inj h
        rfl

theorem getElem?_quote (front rest : Text) :
    (front ++ '"' :: rest).bytes[front.width]? = some quoteByte :=
  Text.getElem?_bytes_append front ('"' :: rest) 0

theorem getElem?_behind_quote_iff (front rest : Text) :
    (front ++ '"' :: rest).bytes[front.width + 1]? = some quoteByte ↔ QuoteNext rest := by
  rw [Text.getElem?_bytes_append front ('"' :: rest) 1, ← head?_bytes_iff]
  rfl

/-- The closing quote is where a quote stands that no other one follows, behind text in which all
quotes are doubled. -/
theorem closingQuote?_eq_some_iff_bytes :
    closingQuote? text = some offset ↔
      text.bytes[offset]? = some quoteByte ∧ text.bytes[offset + 1]? ≠ some quoteByte ∧
        ∃ content, text.slice? 0 offset = some content ∧ Quoted content := by
  rw [closingQuote?_eq_some_iff]
  simp only [Text.slice?_zero_eq_some_iff]
  constructor
  · rintro ⟨content, rest, rfl, hrest, hquoted, rfl⟩
    exact ⟨getElem?_quote content rest, mt (getElem?_behind_quote_iff content rest).mp hrest,
      content, ⟨_, rfl, rfl⟩, hquoted⟩
  · rintro ⟨hhere, hnext, content, ⟨behind, rfl, rfl⟩, hquoted⟩
    have hbegins : QuoteNext behind :=
      head?_bytes_iff.mp ((Text.getElem?_bytes_append content behind 0).symm.trans hhere)
    obtain ⟨rest, rfl⟩ := List.head?_eq_some_iff.mp hbegins
    exact ⟨content, rest, rfl, mt (getElem?_behind_quote_iff content rest).mpr hnext, hquoted, rfl⟩

/-! ## A scan of the bytes -/

/-- The offset of the first quote from an offset on that no other one follows. Two quotes are passed
over at once, and each other byte by itself. -/
def quoteFrom (bytes : List UInt8) (offset : Nat) : Option Nat :=
  if h : offset < bytes.length then
    if bytes[offset] = quoteByte then
      if bytes[offset + 1]? = some quoteByte then quoteFrom bytes (offset + 2)
      else some offset
    else quoteFrom bytes (offset + 1)
  else none
termination_by bytes.length - offset

theorem quoteFrom_quote {bytes : List UInt8} (h : bytes[offset]? = some quoteByte) :
    quoteFrom bytes offset =
      if bytes[offset + 1]? = some quoteByte then quoteFrom bytes (offset + 2)
      else some offset := by
  obtain ⟨hlt, hbyte⟩ := List.getElem?_eq_some_iff.mp h
  rw [quoteFrom, dif_pos hlt, if_pos hbyte]

/-- Bytes other than quotes are passed over. -/
theorem quoteFrom_pass (before : List UInt8) {passed : List UInt8} (h : quoteByte ∉ passed)
    (behind : List UInt8) :
    quoteFrom (before ++ (passed ++ behind)) before.length =
      quoteFrom (before ++ (passed ++ behind)) (before.length + passed.length) := by
  induction passed generalizing before with
  | nil => rfl
  | cons byte passed ih =>
      obtain ⟨hbyte, hpassed⟩ := List.ne_and_not_mem_of_not_mem_cons h
      have hlater := ih (before ++ [byte]) hpassed
      rw [quoteFrom, dif_pos (by simp), if_neg (by simpa using Ne.symm hbyte)]
      simpa [Nat.add_assoc, Nat.add_comm 1] using hlater

/-- A character is passed over with all its bytes. -/
theorem quoteFrom_char {c : Char} (h : c ≠ '"') (front rest : Text) :
    quoteFrom (front ++ c :: rest).bytes front.width =
      quoteFrom (front ++ c :: rest).bytes (front ++ [c]).width := by
  have hpass := quoteFrom_pass front.bytes (mt eq_quote_of_mem h) (Text.bytes rest)
  simpa using hpass

theorem quoteFrom_pair (front rest : Text) :
    quoteFrom (front ++ '"' :: '"' :: rest).bytes front.width =
      quoteFrom (front ++ '"' :: '"' :: rest).bytes (front ++ ['"', '"']).width := by
  have hnext := (getElem?_behind_quote_iff front ('"' :: rest)).mpr rfl
  rw [quoteFrom_quote (getElem?_quote front _), if_pos hnext, Text.width_append]
  rfl

theorem quoteFrom_width (text : Text) : quoteFrom text.bytes text.width = none := by
  rw [quoteFrom, dif_neg (by simp)]

/-- Quoted text is passed over as a whole: a step takes a character or a doubled quote, so no step
ends between the two quotes of a pair. -/
theorem Quoted.quoteFrom_append (h : Quoted content) (front rest : Text) :
    quoteFrom (front ++ (content ++ rest)).bytes front.width =
      quoteFrom (front ++ (content ++ rest)).bytes (front ++ content).width := by
  induction h generalizing front with
  | nil => rw [List.append_nil]
  | @char c content hc _ ih =>
      have hbehind := ih (front ++ [c])
      rw [← List.append_cons, ← List.append_cons] at hbehind
      exact (quoteFrom_char hc front (content ++ rest)).trans hbehind
  | @pair content _ ih =>
      have hbehind := ih (front ++ ['"', '"'])
      rw [List.append_assoc, List.append_assoc] at hbehind
      exact (quoteFrom_pair front (content ++ rest)).trans hbehind

/-- The scan of all bytes finds the closing quote. -/
theorem quoteFrom_eq (text : Text) : quoteFrom text.bytes 0 = closingQuote? text := by
  cases hclosing : closingQuote? text with
  | none =>
      have hquoted := closingQuote?_eq_none_iff.mp hclosing
      have hpass := hquoted.quoteFrom_append [] []
      rw [List.append_nil] at hpass
      exact hpass.trans (quoteFrom_width text)
  | some offset =>
      obtain ⟨content, rest, rfl, hrest, hquoted, rfl⟩ := closingQuote?_eq_some_iff.mp hclosing
      refine (hquoted.quoteFrom_append [] ('"' :: rest)).trans ?_
      exact (quoteFrom_quote (getElem?_quote content rest)).trans
        (if_neg (mt (getElem?_behind_quote_iff content rest).mp hrest))

/-! ## Text with doubled quotes -/

/-- The text with each quote doubled. -/
def doubled (text : Text) : Text := text.flatMap fun c => if c = '"' then ['"', '"'] else [c]

theorem quoted_doubled (text : Text) : Quoted (doubled text) := by
  induction text with
  | nil => exact .nil
  | cons c text ih =>
      by_cases hc : c = '"'
      · simpa [doubled, hc] using ih.pair
      · simpa [doubled, hc] using ih.char hc

/-- A construct that closes is the first lexeme of the text it opens, up to its closer. -/
theorem Construct.head?_lexemes {construct : Construct}
    (h : construct.content? (content ++ (construct.closing ++ rest)) = some content) :
    (lexemes (construct.opener ++ (content ++ (construct.closing ++ rest)))).1.head? =
      some ⟨construct.lexeme .closed, 0,
        (construct.opener ++ (content ++ construct.closing)).width⟩ := by
  have hfirst := construct.firstLexeme?_closed h
  have hblank : ∀ c ∈ (construct.opener ++ (content ++ construct.closing)).head?,
      isBlank c = false := by
    cases construct <;> simp [opener, isBlank]
  have hne := List.append_ne_nil_of_left_ne_nil construct.opener_ne_nil
    (content ++ construct.closing)
  rw [← List.append_assoc content, ← List.append_assoc] at hfirst ⊢
  rw [lexemes, lexemesFrom_word hne hblank hfirst, Nat.zero_add]
  rfl

/-- The closing quote that is found in a text is the one that a scan of its bytes finds. It is where
a quote stands that no other one follows, behind text in which all quotes are doubled; and none is
found in a text that is so as a whole. So a text with its quotes doubled, between quotes and in front
of no other one, is read as one closed literal, and behind a hash sign as one closed identifier. -/
theorem closingQuote?_exact (text : Text) :
    quoteFrom text.bytes 0 = closingQuote? text ∧
      (∀ offset, closingQuote? text = some offset ↔
        text.bytes[offset]? = some quoteByte ∧ text.bytes[offset + 1]? ≠ some quoteByte ∧
          ∃ content, text.slice? 0 offset = some content ∧ Quoted content) ∧
      (closingQuote? text = none ↔ Quoted text) ∧
      ∀ rest : Text, ¬ QuoteNext rest →
        (lexemes ('"' :: (doubled text ++ '"' :: rest))).1.head? =
          some ⟨.text .closed, 0, Text.width ('"' :: (doubled text ++ ['"']))⟩ ∧
        (lexemes ('#' :: '"' :: (doubled text ++ '"' :: rest))).1.head? =
          some ⟨.quotedIdentifier .closed, 0,
            Text.width ('#' :: '"' :: (doubled text ++ ['"']))⟩ := by
  refine ⟨quoteFrom_eq text, fun _ => closingQuote?_eq_some_iff_bytes, closingQuote?_eq_none_iff,
    fun rest hrest => ?_⟩
  have hcontent := (quoted_doubled text).quotedContent? hrest
  constructor
  · exact @Construct.head?_lexemes rest (doubled text) .text hcontent
  · exact @Construct.head?_lexemes rest (doubled text) .quotedIdentifier hcontent

/-- A single quote behind a wide character, and a doubled one on the next line. -/
theorem closingQuote?_exact_lines :
    let text : Text := "é\"\n\"\"".toList
    let rest : Text := " x".toList
    closingQuote? text = some 2 ∧ ¬ QuoteNext rest ∧
      (lexemes ('"' :: (doubled text ++ '"' :: rest))).1.head? = some ⟨.text .closed, 0, 11⟩ ∧
      (lexemes ('#' :: '"' :: (doubled text ++ '"' :: rest))).1.head? =
        some ⟨.quotedIdentifier .closed, 0, 12⟩ := by
  intro text rest
  obtain ⟨-, hcloses, -, hreads⟩ := closingQuote?_exact text
  have hcontent : ∃ content, text.slice? 0 2 = some content ∧ Quoted content :=
    ⟨['é'], by decide, .char (by decide) .nil⟩
  have hquote := (hcloses 2).mpr ⟨by decide, by decide, hcontent⟩
  have hrest : ¬ QuoteNext rest := by decide
  obtain ⟨hliteral, hidentifier⟩ := hreads rest hrest
  exact ⟨hquote, hrest, hliteral, hidentifier⟩

end TokenConcord.Lexing
