import Mathlib.Data.List.Basic
import TokenConcord.Lexing.Lexeme

/-!
# Where delimited constructs close

A text literal closes at the first quote that is not half of a doubled one, and a block comment
at its first closer. What stands before the closing quote is quoted text, in which each quote is
half of a doubled one, and a text without a closing quote is quoted text as a whole.
-/

namespace TokenConcord.Lexing

/-- Each quote of the text is half of a doubled one. -/
inductive Quoted : Text → Prop
  | nil : Quoted []
  | char {c : Char} {text : Text} : c ≠ '"' → Quoted text → Quoted (c :: text)
  | pair {text : Text} : Quoted text → Quoted ('"' :: '"' :: text)

/-- The text goes on with a quote. -/
def QuoteNext (text : Text) : Prop := text.head? = some '"'

instance (text : Text) : Decidable (QuoteNext text) := inferInstanceAs (Decidable (_ = _))

theorem quotedContent?_char {c : Char} (h : c ≠ '"') (text : Text) :
    quotedContent? (c :: text) = (quotedContent? text).map (c :: ·) := by
  rw [quotedContent?, if_neg h]
  rintro text rfl
  exact absurd rfl h

theorem quotedContent?_quote {text : Text} (h : ¬ QuoteNext text) :
    quotedContent? ('"' :: text) = some [] := by
  rw [quotedContent?, if_pos rfl]
  rintro more _ rfl
  exact h rfl

theorem quotedContent?_pair (text : Text) :
    quotedContent? ('"' :: '"' :: text) = (quotedContent? text).map ('"' :: '"' :: ·) := by
  rw [quotedContent?]

/-- Quoted text closes at the quote behind it. -/
theorem Quoted.quotedContent? {content rest : Text} (h : Quoted content)
    (hrest : ¬ QuoteNext rest) : quotedContent? (content ++ '"' :: rest) = some content := by
  induction h with
  | nil => exact quotedContent?_quote hrest
  | char hc _ ih => rw [List.cons_append, quotedContent?_char hc, ih, Option.map_some]
  | pair _ ih =>
      rw [List.cons_append, List.cons_append, quotedContent?_pair, ih, Option.map_some]

/-- What stands before the closing quote is quoted text, and no further quote follows. -/
theorem quotedContent?_eq_some {text content : Text}
    (h : Lexing.quotedContent? text = some content) :
    Quoted content ∧ ∃ rest, text = content ++ '"' :: rest ∧ ¬ QuoteNext rest := by
  fun_induction Lexing.quotedContent? text generalizing content with
  | case1 => cases h
  | case2 text ih =>
      obtain ⟨inner, hinner, rfl⟩ := Option.map_eq_some_iff.mp h
      obtain ⟨hquoted, rest, rfl, hrest⟩ := ih hinner
      exact ⟨hquoted.pair, rest, rfl, hrest⟩
  | case3 text hpair =>
      cases h
      refine ⟨.nil, text, rfl, fun hquote => ?_⟩
      cases text with
      | nil => cases hquote
      | cons c text =>
          cases hquote
          exact hpair text rfl rfl
  | case4 c text hpair hc ih =>
      obtain ⟨inner, hinner, rfl⟩ := Option.map_eq_some_iff.mp h
      obtain ⟨hquoted, rest, rfl, hrest⟩ := ih hinner
      exact ⟨hquoted.char hc, rest, rfl, hrest⟩

/-- Without a closing quote all of the text is quoted text. -/
theorem quotedContent?_eq_none {text : Text} (h : Lexing.quotedContent? text = none) :
    Quoted text := by
  fun_induction Lexing.quotedContent? text with
  | case1 => exact .nil
  | case2 text ih => exact (ih (Option.map_eq_none_iff.mp h)).pair
  | case3 text hpair => cases h
  | case4 c text hpair hc ih => exact (ih (Option.map_eq_none_iff.mp h)).char hc

theorem Quoted.quotedContent?_eq_none {text : Text} (h : Quoted text) :
    Lexing.quotedContent? text = none := by
  induction h with
  | nil => rfl
  | char hc _ ih => rw [quotedContent?_char hc, ih, Option.map_none]
  | pair _ ih => rw [quotedContent?_pair, ih, Option.map_none]

theorem quoted_of_not_mem {text : Text} (h : '"' ∉ text) : Quoted text := by
  induction text with
  | nil => exact .nil
  | cons c text ih =>
      obtain ⟨hc, htext⟩ := List.ne_and_not_mem_of_not_mem_cons h
      exact (ih htext).char (Ne.symm hc)

/-- Quoted text with a quote has a last doubled quote. -/
theorem Quoted.exists_last {text : Text} (h : Quoted text) (hquote : '"' ∈ text) :
    ∃ before after, text = before ++ '"' :: '"' :: after ∧ Quoted before ∧ '"' ∉ after := by
  induction h with
  | nil => exact absurd hquote List.not_mem_nil
  | @char c text hc _ ih =>
      obtain ⟨before, after, rfl, hbefore, hafter⟩ :=
        ih ((List.mem_cons.mp hquote).resolve_left (Ne.symm hc))
      exact ⟨c :: before, after, rfl, hbefore.char hc, hafter⟩
  | @pair text htext ih =>
      by_cases hlater : '"' ∈ text
      · obtain ⟨before, after, rfl, hbefore, hafter⟩ := ih hlater
        exact ⟨'"' :: '"' :: before, after, rfl, hbefore.pair, hafter⟩
      · exact ⟨[], text, rfl, .nil, hlater⟩

/-- Quoted text that goes on behind a quote which is not doubled there has a quote next. -/
theorem Quoted.quote_inside {x y : Text} (hx : Quoted x) (h : Quoted (x ++ '"' :: y)) :
    ∃ z, y = '"' :: z ∧ Quoted z := by
  induction hx with
  | nil =>
      rw [List.nil_append] at h
      cases h with
      | char hc _ => exact absurd rfl hc
      | pair hz => exact ⟨_, rfl, hz⟩
  | @char c x hc _ ih =>
      rw [List.cons_append] at h
      generalize htext : x ++ '"' :: y = text at h ih
      cases h with
      | char _ h => exact ih h
      | pair _ => exact absurd rfl hc
  | @pair x _ ih =>
      rw [List.cons_append, List.cons_append] at h
      cases h with
      | char hc _ => exact absurd rfl hc
      | pair h => exact ih h

/-! ## Block comments -/

/-- The text goes on with the closer of a block comment. -/
def CloserNext (text : Text) : Prop := ['*', '/'] <+: text

instance (text : Text) : Decidable (CloserNext text) := inferInstanceAs (Decidable (_ <+: _))

theorem commentContent?_char {c : Char} {text : Text} (h : ¬ CloserNext (c :: text)) :
    commentContent? (c :: text) = (commentContent? text).map (c :: ·) := by
  rw [commentContent?]
  rintro more rfl rfl
  exact h ⟨more, rfl⟩

/-- What stands before the first closer is followed by it. -/
theorem commentContent?_eq_some {text content : Text} (h : commentContent? text = some content) :
    ∃ rest, text = content ++ '*' :: '/' :: rest := by
  induction text generalizing content with
  | nil => cases h
  | cons c text ih =>
      by_cases hcloser : CloserNext (c :: text)
      · obtain ⟨rest, hrest⟩ := hcloser
        cases hrest
        cases h
        exact ⟨rest, rfl⟩
      · rw [commentContent?_char hcloser] at h
        obtain ⟨inner, hinner, rfl⟩ := Option.map_eq_some_iff.mp h
        obtain ⟨rest, rfl⟩ := ih hinner
        exact ⟨rest, rfl⟩

/-- What stands before the first closer has none. -/
theorem commentContent?_unclosed {text content : Text} (h : commentContent? text = some content) :
    ¬ ['*', '/'] <:+: content := by
  induction text generalizing content with
  | nil => cases h
  | cons c text ih =>
      by_cases hcloser : CloserNext (c :: text)
      · obtain ⟨rest, hrest⟩ := hcloser
        cases hrest
        cases h
        exact fun hinfix => by cases List.infix_nil.mp hinfix
      · rw [commentContent?_char hcloser] at h
        obtain ⟨inner, hinner, rfl⟩ := Option.map_eq_some_iff.mp h
        obtain ⟨rest, rfl⟩ := commentContent?_eq_some hinner
        rw [List.infix_cons_iff]
        rintro (hnext | hinside)
        · exact hcloser (hnext.trans (List.prefix_append (c :: inner) _))
        · exact ih hinner hinside

theorem not_closerNext_of_unclosed {c : Char} {content : Text}
    (h : ¬ ['*', '/'] <:+: c :: content) (rest : Text) :
    ¬ CloserNext (c :: content ++ '*' :: '/' :: rest) := by
  rintro ⟨more, hmore⟩
  obtain ⟨rfl, htail⟩ := List.cons.inj hmore
  cases content with
  | nil => cases htail
  | cons d content =>
      obtain ⟨rfl, _⟩ := List.cons.inj htail
      exact h ⟨[], content, rfl⟩

/-- A text without a closer in front of one is what stands before the first one. -/
theorem commentContent?_of_unclosed {content : Text} (h : ¬ ['*', '/'] <:+: content)
    (rest : Text) : commentContent? (content ++ '*' :: '/' :: rest) = some content := by
  induction content with
  | nil => rfl
  | cons c content ih =>
      have hinner : ¬ ['*', '/'] <:+: content := fun hcloser => h (List.infix_cons hcloser)
      have hnext := not_closerNext_of_unclosed h rest
      rw [List.cons_append] at hnext ⊢
      rw [commentContent?_char hnext, ih hinner, Option.map_some]

theorem commentContent?_eq_none_iff {text : Text} :
    commentContent? text = none ↔ ¬ ['*', '/'] <:+: text := by
  constructor
  · intro h
    induction text with
    | nil => exact fun hinfix => by cases List.infix_nil.mp hinfix
    | cons c text ih =>
        have hcloser : ¬ CloserNext (c :: text) := by
          rintro ⟨rest, hrest⟩
          cases hrest
          cases h
        rw [commentContent?_char hcloser, Option.map_eq_none_iff] at h
        rw [List.infix_cons_iff]
        rintro (hnext | hinside)
        · exact hcloser hnext
        · exact ih h hinside
  · intro h
    rw [Option.eq_none_iff_forall_ne_some]
    intro inner hinner
    obtain ⟨rest, rfl⟩ := commentContent?_eq_some hinner
    exact h ⟨inner, rest, by simp⟩

/-! ## Constructs as lexemes -/

section Lexemes

variable {content rest : Text}

theorem firstLexeme?_text (hcontent : Quoted content) (hrest : ¬ QuoteNext rest) :
    firstLexeme? ('"' :: (content ++ '"' :: rest)) =
      some (.text .closed, ('"' :: (content ++ ['"'])).length) := by
  rw [firstLexeme?, hcontent.quotedContent? hrest]
  simp [delimited, Nat.add_comm]

theorem firstLexeme?_text_opened (hcontent : Quoted content) :
    firstLexeme? ('"' :: content) = some (.text .opened, ('"' :: content).length) := by
  rw [firstLexeme?, hcontent.quotedContent?_eq_none]
  rfl

theorem firstLexeme?_quotedIdentifier (hcontent : Quoted content) (hrest : ¬ QuoteNext rest) :
    firstLexeme? ('#' :: '"' :: (content ++ '"' :: rest)) =
      some (.quotedIdentifier .closed, ('#' :: '"' :: (content ++ ['"'])).length) := by
  rw [firstLexeme?, hcontent.quotedContent? hrest]
  simp [delimited]
  omega

theorem firstLexeme?_quotedIdentifier_opened (hcontent : Quoted content) :
    firstLexeme? ('#' :: '"' :: content) =
      some (.quotedIdentifier .opened, ('#' :: '"' :: content).length) := by
  rw [firstLexeme?, hcontent.quotedContent?_eq_none]
  rfl

theorem firstLexeme?_comment
    (h : commentContent? (content ++ '*' :: '/' :: rest) = some content) :
    firstLexeme? ('/' :: '*' :: (content ++ '*' :: '/' :: rest)) =
      some (.blockComment .closed, ('/' :: '*' :: (content ++ ['*', '/'])).length) := by
  rw [firstLexeme?, h]
  simp [delimited]
  omega

theorem firstLexeme?_comment_opened (h : commentContent? content = none) :
    firstLexeme? ('/' :: '*' :: content) =
      some (.blockComment .opened, ('/' :: '*' :: content).length) := by
  rw [firstLexeme?, h]
  rfl

end Lexemes

end TokenConcord.Lexing
