import TokenConcord.Lexing.Document
import TokenConcord.Proofs.Lexing.Delimited
import TokenConcord.Proofs.Lexing.Lines
import TokenConcord.Proofs.Lexing.Words

/-!
# Lines of items

Code on one line is identifiers, numbers, text literals, reserved words, hash keywords and
operators with blanks between them. An operator of two operands may touch an atom on either
side. The reference lexer gives one token for each item of such a line.
-/

namespace TokenConcord.Lexing

/-- How close an item may stand to its neighbours. -/
inductive Bond where
  | atom
  /-- May touch an atom. -/
  | tight
  /-- Stands by itself. -/
  | loose
  deriving DecidableEq

namespace Bond

/-- Whether no blank is needed between two neighbours. -/
def touches : Bond → Bond → Bool
  | atom, tight | tight, atom => true
  | _, _ => false

end Bond

/-- The operators that may touch an atom. -/
def tightOperators : List String :=
  ["&", "*", "+", "-", "/", "=", "<", "<=", "<>", ">", ">=", "??", ","]

/-- Items with what they are to the reference lexer. -/
inductive Item : Bond → Text → Kind → Prop
  | identifier {segment more : Text} :
      IsSegment segment → segment ≠ ['_'] →
      (∀ entry ∈ reservedWords, segment ≠ entry.1.toList) → AreSegments more →
        Item .atom (segment ++ more) .identifier
  | number {text : Text} : IsNumber text → Item .atom text .numericLiteral
  | hexNumber {text : Text} : IsHexNumber text → Item .atom text .hexLiteral
  | text {content : Text} : Quoted content → '\n' ∉ content →
      Item .atom ('"' :: (content ++ ['"'])) .textLiteral
  | quotedIdentifier {content : Text} : Quoted content → content ≠ [] → '\n' ∉ content →
      Item .atom ('#' :: '"' :: (content ++ ['"'])) .identifier
  | reserved {word : String} {kind : Kind} :
      (word, kind) ∈ reservedWords → Item .loose word.toList kind
  | tight {word : String} {kind : Kind} :
      (word, kind) ∈ fixedLexemes → word ∈ tightOperators → Item .tight word.toList kind
  | loose {word : String} {kind : Kind} :
      (word, kind) ∈ fixedLexemes → word ∉ tightOperators → word ∉ ["[", "]"] →
        Item .loose word.toList kind

/-- Spaces and tabs. -/
def AreBlanks (text : Text) : Prop := ∀ c ∈ text, c = ' ' ∨ c = '\t'

/-- A line from a byte offset on is items with blanks between them, which may be missing where
neighbours touch. The tokens are the items with their kinds and positions. -/
inductive Items : Option Bond → Nat → Text → List Token → Prop
  | done {previous : Option Bond} {offset : Nat} {blanks : Text} :
      AreBlanks blanks → Items previous offset blanks []
  | item {previous : Option Bond} {bond : Bond} {offset : Nat} {blanks text rest : Text}
      {kind : Kind} {tokens : List Token} :
      AreBlanks blanks → (blanks = [] → ∀ neighbour ∈ previous, neighbour.touches bond = true) →
      Item bond text kind → Items (some bond) (offset + (blanks ++ text).width) rest tokens →
        Items previous offset (blanks ++ (text ++ rest))
          (⟨kind, offset + blanks.width, offset + (blanks ++ text).width⟩ :: tokens)

variable {bond : Bond} {kind : Kind} {offset : Nat} {text rest blanks : Text}
  {previous : Option Bond} {tokens : List Token}

/-! ## What stands behind an item -/

/-- First characters of atoms. -/
def startsAtom (c : Char) : Bool := isAsciiStart c || c.isDigit || c ∈ ['.', '"', '#']

/-- Characters that may stand right behind an item. -/
def Bond.follows (bond : Bond) (c : Char) : Bool :=
  c == ' ' || c == '\t' ||
    match bond with
    | atom => tightOperators.any (·.toList.head? == some c)
    | tight => startsAtom c
    | loose => false

/-- The text may stand right behind an item. -/
def Follows (bond : Bond) (text : Text) : Prop :=
  ∀ c, text.head? = some c → bond.follows c = true

theorem AreBlanks.follows (h : AreBlanks blanks) (hne : blanks ≠ []) (rest : Text) :
    Follows bond (blanks ++ rest) := by
  obtain ⟨c, more, rfl⟩ := List.exists_cons_of_ne_nil hne
  rintro d ⟨⟩
  rcases h c List.mem_cons_self with rfl | rfl <;> rfl

theorem Item.exists_cons (h : Item .atom text kind) :
    ∃ c more, text = c :: more ∧ startsAtom c = true := by
  cases h with
  | identifier hsegment _ _ _ =>
      obtain ⟨c, more, rfl, hc, _⟩ := hsegment.exists_cons
      exact ⟨c, _, rfl, by simp [startsAtom, hc]⟩
  | number hnumber =>
      obtain ⟨c, more, rfl, hc⟩ := hnumber.head
      refine ⟨c, more, rfl, ?_⟩
      rcases hc with hc | rfl
      · simp [startsAtom, hc]
      · decide
  | hexNumber hnumber =>
      cases hnumber
      exact ⟨'0', _, rfl, by decide⟩
  | text _ _ => exact ⟨'"', _, rfl, by decide⟩
  | quotedIdentifier _ _ _ => exact ⟨'#', _, rfl, by decide⟩

theorem fixedLexemes_ne_nil : ∀ entry ∈ fixedLexemes, entry.1.toList ≠ [] := by decide

theorem Item.ne_nil (h : Item bond text kind) : text ≠ [] := by
  cases bond with
  | atom =>
      obtain ⟨c, more, rfl, _⟩ := h.exists_cons
      exact List.cons_ne_nil _ _
  | tight =>
      cases h with
      | tight hmem _ => exact fixedLexemes_ne_nil _ hmem
  | loose =>
      cases h with
      | @reserved word _ hmem =>
          obtain ⟨c, more, hword, _⟩ := (reservedWords_spec _ hmem).1.exists_cons
          rw [hword]
          exact List.cons_ne_nil _ _
      | loose hmem _ _ => exact fixedLexemes_ne_nil _ hmem

/-- An item may stand right behind a neighbour that it touches. -/
theorem Item.follows {neighbour : Bond} (h : Item bond text kind)
    (htouches : neighbour.touches bond = true) (rest : Text) :
    Follows neighbour (text ++ rest) := by
  intro c hc
  cases neighbour with
  | atom =>
      cases bond with
      | tight =>
          cases h with
          | @tight word _ hmem htight =>
              have hhead : word.toList.head? = some c := by
                rwa [List.head?_append_of_ne_nil _ (fixedLexemes_ne_nil _ hmem)] at hc
              simp only [Bond.follows, Bool.or_eq_true]
              exact Or.inr (List.any_eq_true.mpr ⟨word, htight, by simp [hhead]⟩)
      | atom => cases htouches
      | loose => cases htouches
  | tight =>
      cases bond with
      | atom =>
          obtain ⟨d, more, rfl, hd⟩ := h.exists_cons
          cases hc
          simp [Bond.follows, hd]
      | tight => cases htouches
      | loose => cases htouches
  | loose => cases htouches

/-- What is left of a line may stand right behind the item before it. -/
theorem Items.follows (h : Items (some bond) offset text tokens) : Follows bond text := by
  cases h with
  | done hblanks =>
      by_cases hne : text = []
      · rw [hne]
        rintro c ⟨⟩
      · simpa using hblanks.follows hne []
  | @item _ _ _ blanks _ rest _ _ hblanks htouches hitem _ =>
      by_cases hne : blanks = []
      · subst hne
        exact hitem.follows (htouches rfl bond rfl) rest
      · exact hblanks.follows hne _

/-- Characters behind an item are ASCII characters, so a test can be checked on those. -/
theorem Bond.lt_of_follows {c : Char} (h : bond.follows c = true) : c.toNat < 128 := by
  have hoperators : ∀ word ∈ tightOperators, ∀ d ∈ word.toList.head?, d.toNat < 128 := by decide
  simp only [Bond.follows, Bool.or_eq_true, beq_iff_eq] at h
  rcases h with (rfl | rfl) | h
  · decide
  · decide
  · cases bond with
    | atom =>
        obtain ⟨word, hmem, hhead⟩ := List.any_eq_true.mp h
        exact hoperators word hmem c (beq_iff_eq.mp hhead)
    | tight =>
        simp only [startsAtom, Bool.or_eq_true, decide_eq_true_eq] at h
        rcases h with (hstart | hdigit) | hother
        · exact lt_of_isAsciiPart (isAsciiPart_of_isAsciiStart hstart)
        · exact lt_of_isDigit hdigit
        · have hall : ∀ d ∈ ['.', '"', '#'], d.toNat < 128 := by decide
          exact hall c hother
    | loose => cases h

/-- A test that no character passes which may stand behind an item stops there. -/
theorem Follows.stopsAt {test : Char → Bool} (h : Follows bond rest)
    (htest : ∀ n < 128, bond.follows (Char.ofNat n) = true → test (Char.ofNat n) = false) :
    StopsAt test rest := by
  intro c hc
  have hfollows := h c hc
  exact @forall_ascii (fun c => bond.follows c = true → test c = false) htest c
    (Bond.lt_of_follows hfollows) hfollows

/-! ## Items as lexemes -/

set_option maxRecDepth 2000 in
theorem Follows.inWord (h : Follows .atom rest) : StopsAt inWord rest := h.stopsAt (by decide)

set_option maxRecDepth 2000 in
theorem Follows.inNumber (h : Follows .atom rest) : StopsAt inNumber rest := h.stopsAt (by decide)

theorem Follows.not_quoteNext (h : Follows .atom rest) : ¬ QuoteNext rest :=
  fun hquote => absurd (h _ hquote) (by decide)

theorem Follows.loose (h : Follows .loose rest) : Follows .atom rest := by
  intro c hc
  have hblank := h c hc
  simp only [Bond.follows, Bool.or_false] at hblank ⊢
  rw [hblank]
  rfl

/-- Nothing that may stand behind a fixed lexeme goes on with it. -/
theorem Follows.extensions {word : String} (h : Follows bond rest)
    (hword : ∀ c ∈ extensions word.toList, bond.follows c = false) :
    StopsAt (extensions word.toList).contains rest := by
  intro c hc
  cases hmem : (Lexing.extensions word.toList).contains c with
  | false => rfl
  | true =>
      have hfollows := h c hc
      rw [hword c (List.contains_iff_mem.mp hmem)] at hfollows
      cases hfollows

theorem extensions_tight : ∀ word ∈ tightOperators, ∀ c ∈ extensions word.toList,
    Bond.tight.follows c = false := by decide

theorem extensions_loose : ∀ entry ∈ fixedLexemes, ∀ c ∈ extensions entry.1.toList,
    Bond.loose.follows c = false := by decide

/-- The reference lexer takes an item as a whole, whatever may stand behind it. -/
theorem Item.firstLexeme? (h : Item bond text kind) (hrest : Follows bond rest) :
    ∃ lexeme, firstLexeme? (text ++ rest) = some (lexeme, text.length) ∧ lexeme.kind = kind := by
  cases h with
  | identifier hsegment _ hreserved hmore =>
      exact ⟨_, firstLexeme?_identifier hsegment hreserved hmore hrest.inWord, rfl⟩
  | number hnumber => exact ⟨_, firstLexeme?_number hnumber hrest.inNumber, rfl⟩
  | hexNumber hnumber => exact ⟨_, firstLexeme?_hexNumber hnumber hrest.inNumber, rfl⟩
  | text hcontent _ =>
      refine ⟨.text .closed, ?_, rfl⟩
      have hfirst := firstLexeme?_text hcontent hrest.not_quoteNext
      simpa using hfirst
  | quotedIdentifier hcontent _ _ =>
      refine ⟨.quotedIdentifier .closed, ?_, rfl⟩
      have hfirst := firstLexeme?_quotedIdentifier hcontent hrest.not_quoteNext
      simpa using hfirst
  | reserved hmem => exact ⟨_, firstLexeme?_reserved hmem hrest.loose.inWord, rfl⟩
  | tight hmem htight =>
      exact ⟨_, firstLexeme?_fixed hmem (hrest.extensions (extensions_tight _ htight)), rfl⟩
  | @loose word _ hmem _ _ =>
      have hword := extensions_loose (word, kind) hmem
      exact ⟨_, firstLexeme?_fixed hmem (hrest.extensions hword), rfl⟩

theorem Item.isBlank_head (h : Item bond text kind) : ∀ c ∈ text.head?, isBlank c = false := by
  have hstart : ∀ c, startsAtom c = true → isBlank c = false := by
    intro c hc
    have hall : ∀ n < 128, startsAtom (Char.ofNat n) = true → isBlank (Char.ofNat n) = false := by
      decide
    have hascii : c.toNat < 128 := @Bond.lt_of_follows .tight c (by simp [Bond.follows, hc])
    exact @forall_ascii (fun c => startsAtom c = true → isBlank c = false) hall c hascii hc
  have hfixed : ∀ entry ∈ fixedLexemes, ∀ c ∈ entry.1.toList.head?, isBlank c = false := by decide
  have hreserved : ∀ entry ∈ reservedWords, ∀ c ∈ entry.1.toList.head?, isBlank c = false := by
    decide
  cases bond with
  | atom =>
      obtain ⟨d, more, rfl, hd⟩ := h.exists_cons
      rintro c ⟨⟩
      exact hstart d hd
  | tight =>
      cases h with
      | tight hmem _ => exact hfixed _ hmem
  | loose =>
      cases h with
      | reserved hmem => exact hreserved _ hmem
      | loose hmem _ _ => exact hfixed _ hmem

/-- The tokens of lexemes with their kinds and positions. -/
def tokensOf (spans : List LexemeSpan) : List Token :=
  spans.map fun span => ⟨span.lexeme.kind, span.start, span.stop⟩

theorem lexemesFrom_blanks (h : AreBlanks blanks) (offset : Nat) (rest : Text) :
    lexemesFrom offset 0 (blanks ++ rest) = lexemesFrom (offset + blanks.width) 0 rest := by
  induction blanks generalizing offset with
  | nil => rfl
  | cons c blanks ih =>
      obtain ⟨hc, hblanks⟩ := List.forall_mem_cons.mp h
      have hblank : isBlank c = true := by rcases hc with rfl | rfl <;> rfl
      rw [List.cons_append, lexemesFrom_blank hblank, ih hblanks, Text.width_cons, Nat.add_assoc]

/-- The lexemes of a line of items are the items. -/
theorem Items.lexemesFrom (h : Items previous offset text tokens) :
    ∃ spans, lexemesFrom offset 0 text = (spans, []) ∧ tokensOf spans = tokens := by
  induction h with
  | @done _ offset _ hblanks =>
      have hread := lexemesFrom_blanks hblanks offset []
      rw [List.append_nil] at hread
      exact ⟨[], hread, rfl⟩
  | @item _ bond offset blanks text rest kind _ hblanks _ hitem hitems ih =>
      obtain ⟨spans, hspans, htokens⟩ := ih
      obtain ⟨lexeme, hfirst, hkind⟩ := hitem.firstLexeme? hitems.follows
      obtain ⟨c, more, rfl⟩ := List.exists_cons_of_ne_nil hitem.ne_nil
      have hread := @lexemesFrom_lexeme (offset + blanks.width) more rest c lexeme
        (hitem.isBlank_head c rfl) hfirst
      rw [Text.width_append, ← Nat.add_assoc] at hspans
      refine ⟨⟨lexeme, offset + blanks.width, offset + blanks.width + Text.width (c :: more)⟩ ::
        spans, ?_, ?_⟩
      · rw [lexemesFrom_blanks hblanks, List.cons_append, hread, hspans]
      · rw [tokensOf, List.map_cons, hkind, Text.width_append, Nat.add_assoc]
        exact congrArg _ htokens

/-! ## Lines as documents -/

theorem AreSegments.mem {more : Text} (h : AreSegments more) {c : Char} (hc : c ∈ more) :
    isAsciiPart c = true ∨ c = '.' := by
  induction h with
  | nil => cases hc
  | cons hsegment _ ih =>
      obtain ⟨d, text, rfl, hd, htext⟩ := hsegment.exists_cons
      rcases List.mem_cons.mp hc with rfl | hc
      · exact Or.inr rfl
      · rcases List.mem_append.mp hc with hc | hc
        · rcases List.mem_cons.mp hc with rfl | hc
          · exact Or.inl (isAsciiPart_of_isAsciiStart hd)
          · exact Or.inl (htext c hc)
        · exact ih hc

theorem Item.isLine (h : Item bond text kind) : IsLine text := by
  have hfixed : ∀ entry ∈ fixedLexemes, IsLine entry.1.toList := by decide
  have hreserved : ∀ entry ∈ reservedWords, IsLine entry.1.toList := by decide
  cases h with
  | @identifier _ more hsegment _ _ hmore =>
      obtain ⟨c, text, rfl, hc, htext⟩ := hsegment.exists_cons
      have hfirst : ∀ d ∈ c :: text, isAsciiPart d = true :=
        List.forall_mem_cons.mpr ⟨isAsciiPart_of_isAsciiStart hc, htext⟩
      have hlater : ∀ d ∈ more, (isAsciiPart d || d == '.') = true := fun d hd => by
        simpa using hmore.mem hd
      exact (isLine_of_forall hfirst (by decide)).append (isLine_of_forall hlater (by decide))
  | number hnumber =>
      have hall : ∀ c ∈ text, (c.isDigit || c ∈ ['.', 'e', 'E', '+', '-']) = true := fun c hc => by
        simpa using hnumber.mem hc
      exact isLine_of_forall hall (by decide)
  | hexNumber hnumber =>
      cases hnumber with
      | @digits mark digits hmark _ hdigits =>
          refine @IsLine.append ['0', mark] digits ?_ (isLine_of_forall hdigits (by decide))
          rcases hmark with rfl | rfl <;> decide
  | text _ hcontent => exact @isLine_quoted ['"'] _ (by decide) hcontent
  | quotedIdentifier _ _ hcontent => exact @isLine_quoted ['#', '"'] _ (by decide) hcontent
  | reserved hmem => exact hreserved _ hmem
  | tight hmem _ => exact hfixed _ hmem
  | loose hmem _ _ => exact hfixed _ hmem

theorem AreBlanks.isLine (h : AreBlanks blanks) : IsLine blanks := by
  have hall : ∀ c ∈ blanks, (c == ' ' || c == '\t') = true := fun c hc => by simpa using h c hc
  exact isLine_of_forall hall (by decide)

theorem Items.isLine (h : Items previous offset text tokens) : IsLine text := by
  induction h with
  | done hblanks => exact hblanks.isLine
  | item hblanks _ hitem _ ih => exact hblanks.isLine.append (hitem.isLine.append ih)

/-- The reference lexer gives the items of a line as its tokens. -/
theorem Items.ofText (h : Items previous 0 text tokens) :
    ∃ document, Document.ofText text = .ok document ∧ document.tokens = tokens := by
  obtain ⟨spans, hspans, htokens⟩ := h.lexemesFrom
  have hlex : lexLine text .default 1 = .ok ⟨tokens, modeBehind spans⟩ := by
    rw [lexLine, lexRest, List.take_zero, List.drop_zero, Text.width_nil, hspans, ← htokens]
    rfl
  have hshift : tokens.map (·.shift 0) = tokens := by
    have hsame : Token.shift 0 = id := funext fun token => by simp [Token.shift]
    rw [hsame, List.map_id]
  have happend : Document.empty.append text =
      .ok ⟨tokens, modeBehind spans, 1, 0 + text.width + 1⟩ := by
    rw [Document.append, h.isLine.dropReturn]
    simp only [Document.empty, Nat.zero_add, hlex, bind, Except.bind, hshift, List.nil_append]
    rfl
  refine ⟨⟨tokens, modeBehind spans, 1, 0 + text.width + 1⟩, ?_, rfl⟩
  rw [Document.ofText, h.isLine.splitLines, Document.appendAll, List.foldlM_cons, happend]
  rfl

end TokenConcord.Lexing
