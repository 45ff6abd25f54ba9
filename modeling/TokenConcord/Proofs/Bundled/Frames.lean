import TokenConcord.Proofs.Bundled.Identifiers
import TokenConcord.Proofs.Grammar.TakeAll

/-!
# What the bundled grammar looks for

Inside the root and inside a record the grammar looks for everything that code is made of,
inside a record also for its end. Inside a text literal it looks for escapes and the closing
quote, and inside a block comment for its end alone. The first character of a text rules out
most of what code is made of.
-/

namespace TokenConcord.Bundled

open Pattern Grammar Lexing

/-! ## Aims -/

/-- All that code is made of, the preferred first. -/
def codeRules : List (RuleId × Pattern) :=
  [(1, literal ['/', '*']), (10, lineCommentPattern), (20, literal ['"']),
    (15, hashWord ["infinity", "nan"]), (12, wholeWord ["true", "false"]), (14, nullPattern),
    (4, floatPattern), (5, hexPattern), (2, fraction), (8, digits),
    (23, wholeWord ["and", "or", "not"]), (24, wholeWord ["if", "then", "else"]),
    (25, wholeWord ["try", "otherwise", "error"]),
    (26, wholeWord ["as", "each", "in", "is", "let", "meta", "type", "section", "shared"]),
    (27, hashWord ["sections", "shared"]),
    (28, hashWord ["binary", "datetimezone", "datetime", "date", "duration", "table", "time"]),
    (7, wholeWord ["_"]), (6, identifierPattern), (29, literal ['=', '>']),
    (30, oneOf ["<>", "<=", ">=", "<", ">"]), (31, literal ['=']), (32, literal ['?', '?']),
    (33, literal ['?']), (34, .set arithmetic), (35, literal ['&']), (36, literal ['!']),
    (37, literal ['@']), (21, literal ['.', '.', '.']), (22, literal ['.', '.']),
    (19, literal ['[']), (38, literal [',']), (39, literal [';']), (40, literal ['(']),
    (41, literal [')']), (42, literal ['\x7b']), (43, literal ['\x7d']), (18, quotedPattern)]

def codeAims : List Aim := codeRules.map fun (id, pattern) => .rule id pattern

theorem aims_root {frame : Frame} (h : frame.rule = root) : compiled.aims frame = codeAims := by
  have hcloser : compiled.closer? frame = none := by
    rw [closer?, h]
    rfl
  rw [aims, hcloser, h]
  rfl

theorem aims_record {frame : Frame} (h : frame.rule = 19) :
    compiled.aims frame = .closer (literal [']']) :: codeAims := by
  have hcloser : compiled.closer? frame = some (literal [']'], false) := by
    rw [closer?, h]
    rfl
  rw [aims, hcloser, h]
  rfl

theorem aims_text {frame : Frame} (h : frame.rule = 20) :
    compiled.aims frame = [.rule 44 (literal ['"', '"']), .closer (literal ['"'])] := by
  have hcloser : compiled.closer? frame = some (literal ['"'], true) := by
    rw [closer?, h]
    rfl
  rw [aims, hcloser, h]
  rfl

theorem aims_comment {frame : Frame} (h : frame.rule = 1) :
    compiled.aims frame = [.closer (literal ['*', '/'])] := by
  have hcloser : compiled.closer? frame = some (literal ['*', '/'], false) := by
    rw [closer?, h]
    rfl
  rw [aims, hcloser, h]
  rfl

/-! ## First characters -/

theorem mayStart_identifier (c : Char) :
    identifierPattern.mayStart c = (c == '@' || isIdentifierStart c) := by
  rw [← mem_identifierStart, ← mem_single]
  simp [identifierPattern, mayStart, nullable, segments]

/-- All that code is made of but identifiers, whose first characters are known already. -/
def otherRules : List (RuleId × Pattern) := codeRules.take 17 ++ codeRules.drop 18

theorem mem_codeRules {rule : RuleId × Pattern} (h : rule ∈ codeRules) :
    rule ∈ otherRules ∨ rule = (6, identifierPattern) := by
  have hsplit : codeRules = codeRules.take 17 ++ (6, identifierPattern) :: codeRules.drop 18 := rfl
  rw [hsplit, List.mem_append, List.mem_cons] at h
  rw [otherRules, List.mem_append]
  rcases h with h | rfl | h
  · exact Or.inl (Or.inl h)
  · exact Or.inr rfl
  · exact Or.inl (Or.inr h)

/-- The rules by which code may go on with a character are among those listed. -/
def StartsAmong (c : Char) (ids : List RuleId) : Prop :=
  (∀ rule ∈ otherRules, rule.1 ∉ ids → rule.2.mayStart c = false) ∧
    (6 ∉ ids → c ≠ '@' ∧ isIdentifierStart c = false)

instance (c : Char) (ids : List RuleId) : Decidable (StartsAmong c ids) :=
  inferInstanceAs (Decidable (_ ∧ _))

theorem StartsAmong.mayStart {c : Char} {ids : List RuleId} (h : StartsAmong c ids)
    {rule : RuleId × Pattern} (hmem : rule ∈ codeRules) (hid : rule.1 ∉ ids) :
    rule.2.mayStart c = false := by
  rcases mem_codeRules hmem with hmem | rfl
  · exact h.1 rule hmem hid
  · obtain ⟨hat, hstart⟩ := h.2 hid
    rw [mayStart_identifier, beq_false_of_ne hat, hstart]
    rfl

theorem findSome?_filter {α β : Type} {p : α → Bool} {f : α → Option β} {l : List α}
    (h : ∀ x ∈ l, p x = false → f x = none) : (l.filter p).findSome? f = l.findSome? f := by
  induction l with
  | nil => rfl
  | cons x l ih =>
      obtain ⟨hx, hl⟩ := List.forall_mem_cons.mp h
      cases hp : p x with
      | true => rw [List.filter_cons_of_pos hp, List.findSome?_cons, List.findSome?_cons, ih hl]
      | false =>
          rw [List.filter_cons_of_neg (by simp [hp]), List.findSome?_cons, hx hp, ih hl]

/-- What the preferred one of some rules finds. -/
def firstOf (rules : List (RuleId × Pattern)) (cursor : Cursor) : Option Found :=
  rules.findSome? fun rule => (rule.2.nonEmptyAt cursor).map (.rule rule.1)

section FirstOf

variable {id : RuleId} {pattern : Pattern} {rules : List (RuleId × Pattern)} {cursor : Cursor}

theorem firstOf_none (h : pattern.matchAt cursor = none) :
    firstOf ((id, pattern) :: rules) cursor = firstOf rules cursor := by
  have hnone : pattern.nonEmptyAt cursor = none := by rw [nonEmptyAt, h, Option.filter_none]
  rw [firstOf, List.findSome?_cons, hnone]
  rfl

/-- A match of the preferred rule that reads something is what is found. -/
theorem firstOf_some {front u rest : Text} {captures : Captures} (hu : u ≠ [])
    (h : pattern.matchAt (.between front (u ++ rest)) =
      some ⟨front.width, .between (front ++ u) rest, captures⟩) :
    firstOf ((id, pattern) :: rules) (.between front (u ++ rest)) =
      some (.rule id ⟨front.width, .between (front ++ u) rest, captures⟩) := by
  rw [firstOf, List.findSome?_cons, nonEmptyAt_of_matchAt hu h]
  rfl

end FirstOf

/-- Only the rules by which code may go on with a character are tried there. -/
theorem findSome?_codeAims {c : Char} {ids : List RuleId} (h : StartsAmong c ids)
    (front text : Text) :
    codeAims.findSome? (·.at? (.between front (c :: text))) =
      firstOf (codeRules.filter (·.1 ∈ ids)) (.between front (c :: text)) := by
  rw [codeAims, List.findSome?_map]
  refine (findSome?_filter fun rule hmem hid => ?_).symm
  have hnone := nonEmptyAt_eq_none (h.mayStart hmem (of_decide_eq_false hid)) front text
  rw [Function.comp_apply, Aim.at?, hnone, Option.map_none]

/-! ## What is found in code -/

/-- The frame is the root or a record. -/
def IsCode (frame : Frame) : Prop := frame.rule = root ∨ frame.rule = 19

theorem aims_code {frame : Frame} (h : IsCode frame) :
    compiled.aims frame = codeAims ∨
      compiled.aims frame = .closer (literal [']']) :: codeAims := by
  rcases h with h | h
  · exact Or.inl (aims_root h)
  · exact Or.inr (aims_record h)

/-- Only the rules by which code may go on with a character can be found there. -/
theorem foundAt_code {frame : Frame} (h : IsCode frame) {c : Char} {ids : List RuleId}
    (hids : StartsAmong c ids) (hc : c ≠ ']') (front text : Text) :
    compiled.foundAt frame (.between front (c :: text)) =
      firstOf (codeRules.filter (·.1 ∈ ids)) (.between front (c :: text)) := by
  rw [← findSome?_codeAims hids, foundAt]
  rcases aims_code h with haims | haims
  · rw [haims]
  · have hcloser : ¬ [']'] <+: c :: text := fun ⟨more, hmore⟩ => hc (List.cons.inj hmore).1.symm
    rw [haims, List.findSome?_cons, Aim.at?, matchAt_literal_none hcloser]
    rfl

/-- Code goes on with no rule at white space. -/
theorem foundAt_blank {frame : Frame} (h : IsCode frame) {c : Char} (hc : isBlank c = true)
    (front text : Text) : compiled.foundAt frame (.between front (c :: text)) = none := by
  have hids : ∀ c ∈ [' ', '\t', '\r', '\x0c'], StartsAmong c [] ∧ c ≠ ']' := by
    with_unfolding_all decide
  have hblank : c ∈ [' ', '\t', '\r', '\x0c'] := by
    simpa [isBlank, or_assoc] using hc
  obtain ⟨hnone, hbracket⟩ := hids c hblank
  rw [foundAt_code h hnone hbracket]
  rfl

/-! ## What is found inside a text literal -/

section Text

variable {frame : Frame} {front text rest : Text}

theorem foundAt_text (h : frame.rule = 20) (cursor : Cursor) :
    compiled.foundAt frame cursor =
      (((literal ['"', '"']).nonEmptyAt cursor).map (Found.rule 44)).or
        (((literal ['"']).matchAt cursor).map Found.closer) := by
  rw [foundAt, aims_text h]
  simp only [List.findSome?_cons, List.findSome?_nil, Aim.at?]
  cases (literal ['"', '"']).nonEmptyAt cursor <;>
    cases (literal ['"']).matchAt cursor <;> rfl

theorem foundAt_text_none (h : frame.rule = 20) (htext : ¬ QuoteNext text) :
    compiled.foundAt frame (.between front text) = none := by
  have hescape : ¬ ['"', '"'] <+: text := fun ⟨more, hmore⟩ => htext (by rw [← hmore]; rfl)
  have hcloser : ¬ ['"'] <+: text := fun ⟨more, hmore⟩ => htext (by rw [← hmore]; rfl)
  rw [foundAt_text h, nonEmptyAt, matchAt_literal_none hescape, matchAt_literal_none hcloser]
  rfl

/-- A doubled quote inside a text literal is an escape. -/
theorem foundAt_text_escape (h : frame.rule = 20) :
    compiled.foundAt frame (.between front ('"' :: '"' :: rest)) =
      some (.rule 44 ⟨front.width, .between (front ++ ['"', '"']) rest, []⟩) := by
  have hescape := nonEmptyAt_of_matchAt (List.cons_ne_nil _ _)
    (@matchAt_literal front rest ['"', '"'])
  rw [foundAt_text h]
  rw [List.cons_append, List.cons_append, List.nil_append] at hescape
  rw [hescape]
  rfl

/-- A quote that is not doubled closes a text literal. -/
theorem foundAt_text_closer (h : frame.rule = 20) (hrest : ¬ QuoteNext rest) :
    compiled.foundAt frame (.between front ('"' :: rest)) =
      some (.closer ⟨front.width, .between (front ++ ['"']) rest, []⟩) := by
  have hescape : ¬ ['"', '"'] <+: '"' :: rest := fun ⟨more, hmore⟩ => by
    cases hmore
    exact hrest rfl
  have hcloser := @matchAt_literal front rest ['"']
  rw [List.cons_append, List.nil_append] at hcloser
  rw [foundAt_text h, nonEmptyAt, matchAt_literal_none hescape, hcloser]
  rfl

end Text

/-! ## What is found inside a block comment -/

section Comment

variable {frame : Frame} {front text rest : Text}

theorem foundAt_comment (h : frame.rule = 1) (cursor : Cursor) :
    compiled.foundAt frame cursor = ((literal ['*', '/']).matchAt cursor).map Found.closer := by
  rw [foundAt, aims_comment h]
  simp only [List.findSome?_cons, List.findSome?_nil, Aim.at?]
  cases (literal ['*', '/']).matchAt cursor <;> rfl

theorem foundAt_comment_none (h : frame.rule = 1) (htext : ¬ ['*', '/'] <+: text) :
    compiled.foundAt frame (.between front text) = none := by
  rw [foundAt_comment h, matchAt_literal_none htext]
  rfl

theorem foundAt_comment_closer (h : frame.rule = 1) :
    compiled.foundAt frame (.between front ('*' :: '/' :: rest)) =
      some (.closer ⟨front.width, .between (front ++ ['*', '/']) rest, []⟩) := by
  have hcloser := @matchAt_literal front rest ['*', '/']
  rw [List.cons_append, List.cons_append, List.nil_append] at hcloser
  rw [foundAt_comment h, hcloser]
  rfl

end Comment

end TokenConcord.Bundled
