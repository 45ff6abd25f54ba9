import TokenConcord.Proofs.Lexing.Outline

/-!
# Constructs with delimiters

Block comments, text literals and quoted identifiers are lexed in one way: an opener, content up
to the first closer, and the closer. Everything else that a text can start with is a simple
lexeme. `Starts` says which part of a text its first lexeme is, and `firstLexeme?_starts` that
the lexer finds nothing else.
-/

namespace TokenConcord.Lexing

namespace Construct

/-- What a construct begins with. -/
def opener : Construct → Text
  | .comment => ['/', '*']
  | .text => ['"']
  | .quotedIdentifier => ['#', '"']

/-- What a construct ends with. -/
def closing : Construct → Text
  | .comment => ['*', '/']
  | .text | .quotedIdentifier => ['"']

/-- What stands before the first closer. -/
def content? : Construct → Text → Option Text
  | .comment => commentContent?
  | .text | .quotedIdentifier => quotedContent?

/-- The construct closes nowhere in the text: a comment closes at a star with a slash behind it,
and the others at a quote that is not half of a doubled one. -/
def Unclosed : Construct → Text → Prop
  | .comment, inner => ¬ ['*', '/'] <:+: inner
  | .text, inner | .quotedIdentifier, inner => Quoted inner

def lexeme : Construct → Closure → Lexeme
  | .comment => .blockComment
  | .text => .text
  | .quotedIdentifier => .quotedIdentifier

/-- Kinds of the parts of a construct that runs over lines. -/
def parts (construct : Construct) : List Kind :=
  [construct.startKind, construct.contentKind, construct.endKind]

theorem startKind_mem_parts (construct : Construct) : construct.startKind ∈ construct.parts :=
  List.mem_cons_self

theorem contentKind_mem_parts (construct : Construct) : construct.contentKind ∈ construct.parts :=
  List.mem_cons_of_mem _ List.mem_cons_self

theorem endKind_mem_parts (construct : Construct) : construct.endKind ∈ construct.parts :=
  List.mem_cons_of_mem _ (List.mem_cons_of_mem _ List.mem_cons_self)

variable {construct : Construct} {content text rest : Text}

theorem closer?_eq (construct : Construct) (line : Text) :
    construct.closer? line =
      (construct.content? line).map fun content => (content ++ construct.closing).length := by
  cases construct <;> simp [closer?, content?, closing]

theorem opener_ne_nil (construct : Construct) : construct.opener ≠ [] := by
  cases construct <;> exact List.cons_ne_nil _ _

theorem closing_ne_nil (construct : Construct) : construct.closing ≠ [] := by
  cases construct <;> exact List.cons_ne_nil _ _

@[simp] theorem construct?_lexeme (construct : Construct) (closure : Closure) :
    (construct.lexeme closure).construct? = some (construct, closure) := by
  cases construct <;> rfl

@[simp] theorem kind_lexeme_closed (construct : Construct) :
    (construct.lexeme .closed).kind = construct.wholeKind := by
  cases construct <;> rfl

@[simp] theorem kind_lexeme_opened (construct : Construct) :
    (construct.lexeme .opened).kind = construct.startKind := by
  cases construct <;> rfl

@[simp] theorem modeAfter_lexeme_closed (construct : Construct) :
    (construct.lexeme .closed).modeAfter = .default := by
  cases construct <;> rfl

@[simp] theorem modeAfter_lexeme_opened (construct : Construct) :
    (construct.lexeme .opened).modeAfter = .inside construct := by
  cases construct <;> rfl

theorem content?_eq_some (h : construct.content? text = some content) :
    ∃ rest, text = content ++ (construct.closing ++ rest) := by
  cases construct with
  | comment => exact commentContent?_eq_some h
  | text | quotedIdentifier =>
      obtain ⟨_, rest, hrest, _⟩ := quotedContent?_eq_some h
      exact ⟨rest, hrest⟩

theorem content?_eq_none_iff : construct.content? text = none ↔ construct.Unclosed text := by
  cases construct with
  | comment => exact commentContent?_eq_none_iff
  | text | quotedIdentifier => exact ⟨quotedContent?_eq_none, Quoted.quotedContent?_eq_none⟩

/-- A closer ends the construct if it has none in front of it, and a quote only if it is not
doubled. -/
theorem content?_closed_iff : construct.content? (content ++ (construct.closing ++ rest)) =
    some content ↔ construct.Unclosed content ∧ (construct = .comment ∨ ¬ QuoteNext rest) := by
  cases construct with
  | comment =>
      refine ⟨fun h => ⟨commentContent?_unclosed h, Or.inl rfl⟩, fun h => ?_⟩
      exact commentContent?_of_unclosed h.1 rest
  | text | quotedIdentifier =>
      constructor
      · intro h
        obtain ⟨hquoted, behind, hbehind, hrest⟩ := quotedContent?_eq_some h
        cases List.append_cancel_left hbehind
        exact ⟨hquoted, Or.inr hrest⟩
      · rintro ⟨hquoted, hrest⟩
        exact hquoted.quotedContent? (hrest.resolve_left fun h => by cases h)

/-- Where a construct opens, its first lexeme reaches to the closer or to the end of the text. -/
theorem firstLexeme?_opener (construct : Construct) (inner : Text) :
    firstLexeme? (construct.opener ++ inner) =
      some (delimited construct.lexeme construct.opener.length construct.closing.length
        (construct.content? inner) (construct.opener ++ inner)) := by
  cases construct <;> rfl

theorem firstLexeme?_closed
    (h : construct.content? (content ++ (construct.closing ++ rest)) = some content) :
    firstLexeme? (construct.opener ++ (content ++ (construct.closing ++ rest))) =
      some (construct.lexeme .closed,
        (construct.opener ++ (content ++ construct.closing)).length) := by
  rw [firstLexeme?_opener, h, delimited]
  simp only [List.length_append, Nat.add_assoc]

theorem firstLexeme?_opened (h : construct.content? content = none) :
    firstLexeme? (construct.opener ++ content) =
      some (construct.lexeme .opened, (construct.opener ++ content).length) := by
  rw [firstLexeme?_opener, h, delimited]

end Construct

variable {construct : Construct} {text rest : Text} {lexeme : Lexeme} {kind : Kind}

/-! ## Kinds of lexemes -/

/-- The kinds that are kept for constructs. -/
def constructKinds : List Kind :=
  .multilineComment :: .textLiteral ::
    (Construct.comment.parts ++ Construct.text.parts ++ Construct.quotedIdentifier.parts)

theorem mem_constructKinds_of_mem_parts (h : kind ∈ construct.parts) : kind ∈ constructKinds := by
  have hall : ∀ kind ∈ construct.parts, kind ∈ constructKinds := by
    cases construct <;> decide
  exact hall kind h

theorem wordKind_not_mem (word after : Text) : wordKind word after ∉ constructKinds := by
  have hreserved : ∀ entry ∈ reservedWords, entry.2 ∉ constructKinds := by decide
  unfold wordKind
  split
  · decide
  · cases hfind : reservedWords.find? (·.1.toList == word) with
    | none => decide
    | some entry => exact hreserved entry (List.mem_of_find?_eq_some hfind)

theorem fixedLexeme?_not_mem {length : Nat}
    (h : fixedLexeme? text = some (.simple kind, length)) : kind ∉ constructKinds := by
  have hfixed : ∀ entry ∈ fixedLexemes, entry.2 ∉ constructKinds := by decide
  obtain ⟨⟨word, other⟩, hfind, heq⟩ := Option.map_eq_some_iff.mp h
  cases heq
  exact hfixed _ (List.mem_of_find?_eq_some hfind)

/-- Lexemes of code have none of the kinds that are kept for constructs. -/
theorem firstLexeme?_not_mem {c : Char} {length : Nat} (hopens : ¬ Opens (c :: text))
    (h : firstLexeme? (c :: text) = some (.simple kind, length)) : kind ∉ constructKinds := by
  rw [firstLexeme?_plain hopens] at h
  split at h
  · cases h
    exact wordKind_not_mem _ _
  · split at h
    · cases h
      decide
    · split at h
      · cases h
        decide
      · exact fixedLexeme?_not_mem h

/-! ## The first lexeme of a text -/

/-- A text of this word and this rest starts with the word as that lexeme. -/
inductive Starts : Text → Lexeme → Text → Prop
  | simple {word rest : Text} {kind : Kind} :
      word ≠ [] → kind ∉ constructKinds → word.head? ≠ some '#' ∨ kind ≠ .identifier →
        Starts word (.simple kind) rest
  | closed {construct : Construct} {content rest : Text} :
      construct.content? (content ++ (construct.closing ++ rest)) = some content →
        Starts (construct.opener ++ (content ++ construct.closing)) (construct.lexeme .closed) rest
  | opened {construct : Construct} {content : Text} :
      construct.content? content = none →
        Starts (construct.opener ++ content) (construct.lexeme .opened) []

theorem Starts.ne_nil {word : Text} (h : Starts word lexeme rest) : word ≠ [] := by
  cases h with
  | simple hne => exact hne
  | closed => exact List.append_ne_nil_of_left_ne_nil (Construct.opener_ne_nil _) _
  | opened => exact List.append_ne_nil_of_left_ne_nil (Construct.opener_ne_nil _) _

/-- Text that opens a construct, if it opens no line comment. -/
theorem exists_construct (hopens : Opens text) (h : ¬ ['/', '/'] <+: text) :
    ∃ (construct : Construct) (inner : Text), text = construct.opener ++ inner := by
  obtain ⟨opener, hmem, inner, hinner⟩ := hopens
  simp only [openers, List.mem_cons, List.not_mem_nil, or_false] at hmem
  rcases hmem with rfl | rfl | rfl | rfl
  · exact ⟨.text, inner, hinner.symm⟩
  · exact ⟨.quotedIdentifier, inner, hinner.symm⟩
  · exact absurd ⟨inner, hinner⟩ h
  · exact ⟨.comment, inner, hinner.symm⟩

theorem starts_opener {length : Nat} {inner : Text}
    (h : firstLexeme? (construct.opener ++ inner) = some (lexeme, length)) :
    ∃ word rest, construct.opener ++ inner = word ++ rest ∧ length = word.length ∧
      Starts word lexeme rest := by
  cases hcontent : construct.content? inner with
  | some content =>
      obtain ⟨rest, rfl⟩ := Construct.content?_eq_some hcontent
      rw [Construct.firstLexeme?_closed hcontent] at h
      cases h
      exact ⟨_, rest, by simp, rfl, .closed hcontent⟩
  | none =>
      rw [Construct.firstLexeme?_opened hcontent] at h
      cases h
      exact ⟨_, [], (List.append_nil _).symm, rfl, .opened hcontent⟩

theorem starts_lineComment {length : Nat} {inner : Text}
    (h : firstLexeme? ('/' :: '/' :: inner) = some (lexeme, length)) :
    ∃ word rest, '/' :: '/' :: inner = word ++ rest ∧ length = word.length ∧
      Starts word lexeme rest := by
  rw [firstLexeme?] at h
  cases h
  refine ⟨'/' :: '/' :: inner.takeWhile (· != '\n'), inner.dropWhile (· != '\n'), ?_, ?_, ?_⟩
  · simp
  · simp only [countWhile, List.length_cons]
    omega
  · exact .simple (List.cons_ne_nil _ _) (by decide) (Or.inr (by decide))

/-- An identifier without quotes does not start with a hash. -/
theorem firstLexeme?_hash {length : Nat} {kind : Kind} (hopens : ¬ Opens ('#' :: text))
    (h : firstLexeme? ('#' :: text) = some (.simple kind, length)) : kind ≠ .identifier := by
  have hfixed : ∀ entry ∈ fixedLexemes, entry.2 ≠ .identifier := by decide
  rw [firstLexeme?_plain hopens, if_neg (by decide)] at h
  split at h
  · cases h
    decide
  · split at h
    · cases h
      decide
    · obtain ⟨⟨word, other⟩, hfind, heq⟩ := Option.map_eq_some_iff.mp h
      cases heq
      exact hfixed _ (List.mem_of_find?_eq_some hfind)

/-- The first lexeme of a text is the word that the text starts with. -/
theorem firstLexeme?_starts {length : Nat} (h : firstLexeme? text = some (lexeme, length)) :
    ∃ word rest, text = word ++ rest ∧ length = word.length ∧ Starts word lexeme rest := by
  by_cases hopens : Opens text
  · -- A line comment has an opener too, but is a simple lexeme.
    by_cases hcomment : ['/', '/'] <+: text
    · obtain ⟨inner, rfl⟩ := hcomment
      exact starts_lineComment h
    · obtain ⟨construct, inner, rfl⟩ := exists_construct hopens hcomment
      exact starts_opener h
  · cases text with
    | nil => cases h
    | cons c text =>
        obtain ⟨⟨kind, rfl⟩, count, rfl, hquiet⟩ := firstLexeme?_quiet hopens h
        refine ⟨c :: text.take count, text.drop count, ?_, ?_, .simple ?_ ?_ ?_⟩
        · rw [List.cons_append, List.take_append_drop]
        · rw [List.length_cons, List.length_take, Nat.min_eq_left hquiet.le]
        · exact List.cons_ne_nil _ _
        · exact firstLexeme?_not_mem hopens h
        · by_cases hhash : c = '#'
          · subst hhash
            exact Or.inr (firstLexeme?_hash hopens h)
          · exact Or.inl fun heq => hhash (Option.some.inj heq)

end TokenConcord.Lexing
