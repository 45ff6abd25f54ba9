import TokenConcord.Proofs.Bundled.Delimited
import TokenConcord.Proofs.Lexing.Outline

/-!
# The grammar along an outline

The grammar follows the outline of a line as the reference lexer does. Where no construct opens,
whatever it finds is quiet behind its first character, so that it meets every opener of the
outline. A construct that closes is left again; an open comment stays on the rules; and an open
text literal or quoted identifier leaves the opening quote of a literal without a closing one
among the tokens.
-/

namespace TokenConcord

namespace Grammar

/-- The rule stays open behind the match that it starts with. -/
def staysOpen (grammar : Grammar) (id : RuleId) : Bool :=
  match grammar.rules[id]? with
  | some ⟨_, _, .span ..⟩ => true
  | _ => false

theorem take_stack {grammar : Grammar} {id : RuleId} (h : grammar.staysOpen id = false)
    (stack : RuleStack) (run : TokenRun) (found : Match) :
    (grammar.take stack run (.rule id found)).1 = stack := by
  cases hrule : grammar.rules[id]? with
  | none => simp only [take, hrule]
  | some rule =>
      obtain ⟨location, scopes, kind⟩ := rule
      cases kind with
      | single => simp only [take, hrule]
      | span => simp [staysOpen, hrule] at h
      | container => simp only [take, hrule]

end Grammar

namespace Bundled

open Pattern Grammar Lexing TokenRun

variable {stack : RuleStack} {front text rest content : Text} {run : TokenRun} {c : Char}

/-! ## Stacks between lexemes -/

/-- Only scopes that code stands under. -/
def Plain (scopes : List String) : Prop :=
  ∀ scope ∈ scopes, scope ∈ ["source.powerquery", "meta.recordexpression.powerquery"]

/-- A frame between lexemes. -/
structure CodeFrame (frame : Frame) : Prop where
  code : IsCode frame
  plain : Plain frame.contentScopes

/-- Only code is open, and the root below all of it. -/
structure CodeStack (stack : RuleStack) : Prop where
  frames : ∀ frame ∈ stack.top :: stack.below, CodeFrame frame
  bottom : stack.bottom.rule = root

/-- A block comment is open, and nothing else but code. -/
def CommentStack (stack : RuleStack) : Prop :=
  ∃ code frame, CodeStack code ∧ frame.rule = 1 ∧ stack = code.push frame

theorem codeStack_initial : CodeStack compiled.initialStack := by
  refine ⟨fun frame hmem => ?_, rfl⟩
  rw [List.mem_singleton.mp hmem]
  exact ⟨Or.inl rfl, fun scope hscope => List.mem_cons.mpr (Or.inl (List.mem_singleton.mp hscope))⟩

namespace CodeStack

theorem top (h : CodeStack stack) : CodeFrame stack.top := h.frames _ List.mem_cons_self

theorem grounded (h : CodeStack stack) : compiled.Grounded stack := Bundled.grounded h.bottom

theorem pop (h : CodeStack stack) : CodeStack stack.pop := by
  refine ⟨?_, by rw [RuleStack.bottom_pop, h.bottom]⟩
  obtain ⟨top, below⟩ := stack
  cases below with
  | nil => exact h.frames
  | cons frame below => exact fun other hmem => h.frames other (List.mem_cons_of_mem _ hmem)

theorem push (h : CodeStack stack) {frame : Frame} (hframe : CodeFrame frame) :
    CodeStack (stack.push frame) :=
  ⟨List.forall_mem_cons.mpr ⟨hframe, h.frames⟩, by rw [RuleStack.bottom_push, h.bottom]⟩

/-- A record opened in code is code. -/
theorem take_record (h : CodeStack stack) (run : TokenRun) (found : Match) :
    CodeStack (compiled.take stack run (.rule 19 found)).1 := by
  rw [take_span rfl]
  refine h.push ⟨Or.inr rfl, fun scope hmem => ?_⟩
  rw [List.append_nil] at hmem
  rcases List.mem_append.mp hmem with hmem | hmem
  · exact h.top.plain scope hmem
  · rw [List.mem_singleton.mp hmem]
    exact List.mem_cons_of_mem _ List.mem_cons_self

end CodeStack

/-! ## Where no construct opens -/

/-- The rules that start constructs. -/
def constructIds : List RuleId := [1, 10, 18, 20]

/-- Behind its first character the pattern reads quiet characters only. -/
def QuietTail (p : Pattern) : Prop := ∀ c ∈ ['"', '#', '/'], p.mayFollow c = false

instance (p : Pattern) : Decidable (QuietTail p) := inferInstanceAs (Decidable (∀ c ∈ _, _))

theorem quietTail_identifier : QuietTail identifierPattern := by
  have hchars : ∀ c ∈ ['"', '#', '/'], isIdentifierPart c = false ∧
      isIdentifierStart c = false ∧ c ≠ '@' ∧ c ≠ '.' := by
    decide
  intro c hmem
  obtain ⟨hpart, hstart, hat, hpoint⟩ := hchars c hmem
  simp [identifierPattern, segments, mayFollow, mentions, mem_identifierStart,
    mem_identifierPart, mem_single, hpart, hstart, hat, hpoint]

theorem quietTail_otherRules :
    ∀ rule ∈ otherRules, rule.1 ∉ constructIds →
      QuietTail rule.2 ∧ (rule.1 = 19 ∨ compiled.staysOpen rule.1 = false) := by
  with_unfolding_all decide

theorem QuietTail.quiet {p : Pattern} (h : QuietTail p) {tail : Text}
    (hreads : p.Reads front (c :: tail) rest) : ∀ d ∈ tail, Quiet d := by
  intro d hmem
  exact @quiet_of_test (fun d => p.mayFollow d) h d (hreads.mayFollow d hmem)

/-- A rule that starts a construct applies where one opens. -/
theorem opens_of_reads {rule : RuleId × Pattern} (hmem : rule ∈ codeRules)
    (hid : rule.1 ∈ constructIds) {u : Text} (h : rule.2.Reads front u rest) :
    Opens (u ++ rest) := by
  have hrules : codeRules.filter (·.1 ∈ constructIds) =
      [(1, literal ['/', '*']), (10, lineCommentPattern), (20, literal ['"']),
        (18, quotedPattern)] := rfl
  have hrule : rule ∈ codeRules.filter (·.1 ∈ constructIds) :=
    List.mem_filter.mpr ⟨hmem, decide_eq_true hid⟩
  rw [hrules] at hrule
  simp only [List.mem_cons, List.not_mem_nil, or_false] at hrule
  rcases hrule with rfl | rfl | rfl | rfl
  · rw [reads_literal.mp h]
    exact ⟨['/', '*'], by decide, rest, rfl⟩
  · obtain ⟨first, later, rfl, ⟨c, rfl, hc⟩, second, last, rfl, ⟨d, rfl, hd⟩, _⟩ := h
    rw [mem_single, beq_iff_eq] at hc hd
    subst hc hd
    exact ⟨['/', '/'], by decide, last ++ rest, rfl⟩
  · rw [reads_literal.mp h]
    exact ⟨['"'], by decide, rest, rfl⟩
  · obtain ⟨first, later, rfl, hfirst, _⟩ := h
    rw [reads_literal.mp hfirst]
    exact ⟨['#', '"'], by decide, later ++ rest, by simp⟩

theorem aim_of_code {frame : Frame} (h : IsCode frame) {aim : Aim}
    (hmem : aim ∈ compiled.aims frame) :
    aim = .closer (literal [']']) ∨ ∃ rule ∈ codeRules, aim = .rule rule.1 rule.2 := by
  rcases aims_code h with haims | haims
  · rw [haims] at hmem
    obtain ⟨rule, hrule, rfl⟩ := List.mem_map.mp hmem
    exact Or.inr ⟨rule, hrule, rfl⟩
  · rw [haims] at hmem
    rcases List.mem_cons.mp hmem with rfl | hmem
    · exact Or.inl rfl
    · obtain ⟨rule, hrule, rfl⟩ := List.mem_map.mp hmem
      exact Or.inr ⟨rule, hrule, rfl⟩

/-- Whatever is found where no construct opens is quiet behind its first character and leaves
code. -/
theorem found_quiet (hstack : CodeStack stack) (run : TokenRun) (hopens : ¬ Opens (c :: text))
    {found : Found}
    (hfound : compiled.foundAt stack.top (.between front (c :: text)) = some found) :
    ∃ tail rest, text = tail ++ rest ∧ (∀ d ∈ tail, Quiet d) ∧
      found.result.stop = .between (front ++ c :: tail) rest ∧
        CodeStack (compiled.take stack run found).1 := by
  obtain ⟨aim, hmem, haim⟩ := List.exists_of_findSome?_eq_some hfound
  obtain ⟨u, rest, htext, _, hstop, hread⟩ := Aim.at?_reads haim
  have hcode := aim_of_code hstack.top.code hmem
  rcases hread with ⟨pattern, result, rfl, rfl, hread⟩ | ⟨id, pattern, result, rfl, rfl, hne, hread⟩
  · rcases hcode with hcloser | ⟨rule, _, hrule⟩
    · cases hcloser
      rw [reads_literal.mp hread] at htext hstop
      obtain ⟨rfl, rfl⟩ := List.cons.inj htext
      exact ⟨[], text, rfl, fun _ hmem => absurd hmem List.not_mem_nil, hstop, hstack.pop⟩
    · cases hrule
  · rcases hcode with hcloser | ⟨rule, hrule, heq⟩
    · cases hcloser
    · cases heq
      cases u with
      | nil => exact absurd rfl hne
      | cons d tail =>
          obtain ⟨rfl, rfl⟩ := List.cons.inj htext
          have hid : rule.1 ∉ constructIds := fun hid => hopens (opens_of_reads hrule hid hread)
          have hquiet : QuietTail rule.2 ∧ (rule.1 = 19 ∨ compiled.staysOpen rule.1 = false) := by
            rcases mem_codeRules hrule with hother | rfl
            · exact quietTail_otherRules rule hother hid
            · exact ⟨quietTail_identifier, Or.inr rfl⟩
          refine ⟨tail, rest, rfl, hquiet.1.quiet hread, hstop, ?_⟩
          rcases hquiet.2 with hrecord | hstays
          · rw [hrecord]
            exact hstack.take_record run result
          · rw [take_stack hstays]
            exact hstack

/-! ## Where a construct opens -/

theorem foundAt_lineComment {frame : Frame} (h : IsCode frame) (hcontent : '\n' ∉ content) :
    compiled.foundAt frame (.between front ('/' :: '/' :: content)) =
      some (.rule 10 ⟨front.width, .between (front ++ '/' :: '/' :: content) [], []⟩) := by
  have hrules : codeRules.filter (·.1 ∈ [1, 10, 34]) =
      [(1, literal ['/', '*']), (10, lineCommentPattern), (34, .set arithmetic)] := rfl
  have hblock : ¬ ['/', '*'] <+: '/' :: '/' :: content := fun ⟨more, hmore⟩ => by cases hmore
  rw [foundAt_code h startsAmong_slash (by decide), hrules, firstOf_none (matchAt_literal_none hblock)]
  have h := @firstOf_some 10 lineCommentPattern [(34, .set arithmetic)] front
    ('/' :: '/' :: content) [] [] (List.cons_ne_nil _ _)
  rw [List.append_nil] at h
  exact h (matchAt_lineComment hcontent)

theorem foundAt_comment_opener {frame : Frame} (h : IsCode frame) :
    compiled.foundAt frame (.between front ('/' :: '*' :: text)) =
      some (.rule 1 ⟨front.width, .between (front ++ ['/', '*']) text, []⟩) := by
  have hrules : codeRules.filter (·.1 ∈ [1, 10, 34]) =
      [(1, literal ['/', '*']), (10, lineCommentPattern), (34, .set arithmetic)] := rfl
  rw [foundAt_code h startsAmong_slash (by decide), hrules]
  exact firstOf_some (List.cons_ne_nil _ _) (@matchAt_literal front text ['/', '*'])

theorem startsAmong_hash : StartsAmong '#' [15, 27, 28, 18] := by with_unfolding_all decide

/-- The words of a list are made of ASCII letters, digits and underscores. -/
theorem areWords {words : List String} (hne : words ≠ [])
    (h : ∀ word ∈ words, word.toList ≠ [] ∧
      ∀ c ∈ word.toList, c.toNat < 128 ∧ isAsciiPart c = true) : AreWords words := by
  refine ⟨hne, fun word hmem => ⟨(h word hmem).1, fun c hc => ?_⟩⟩
  obtain ⟨hascii, hpart⟩ := (h word hmem).2 c hc
  rw [mem_wordClass_ascii hascii, hpart]

/-- Only the rule for quoted identifiers can apply where one opens. -/
theorem foundAt_hash_quote {frame : Frame} (h : IsCode frame) :
    compiled.foundAt frame (.between front ('#' :: '"' :: text)) =
      (quotedPattern.nonEmptyAt (.between front ('#' :: '"' :: text))).map (.rule 18) := by
  have hrules : codeRules.filter (·.1 ∈ [15, 27, 28, 18]) =
      [(15, hashWord ["infinity", "nan"]), (27, hashWord ["sections", "shared"]),
        (28, hashWord ["binary", "datetimezone", "datetime", "date", "duration", "table", "time"]),
        (18, quotedPattern)] := rfl
  have hquote : wordClass.memAt ('"' :: text).head? = false := by
    rw [List.head?_cons, memAt_some, mem_wordClass_ascii (by decide)]
    rfl
  have hnone : ∀ words, AreWords words →
      (hashWord words).matchAt (.between front ('#' :: '"' :: text)) = none := by
    intro words hwords
    refine @matchAt_hashWord_none front ('"' :: text) words hwords []
      (fun c hmem => absurd hmem List.not_mem_nil) hquote ?_
    exact fun other hmem heq => (hwords.2 other hmem).1 heq.symm
  rw [foundAt_code h startsAmong_hash (by decide), hrules, firstOf_none (hnone _ ?_),
    firstOf_none (hnone _ ?_), firstOf_none (hnone _ ?_), firstOf, List.findSome?_cons]
  · cases quotedPattern.nonEmptyAt (.between front ('#' :: '"' :: text)) <;> rfl
  · exact areWords (by simp) (by decide)
  · exact areWords (by simp) (by decide)
  · exact areWords (by simp) (by decide)

theorem foundAt_quotedIdentifier {frame : Frame} (h : IsCode frame) (hcontent : Quoted content)
    (hrest : EndsQuoted rest) :
    let behind := front ++ ['#', '"'] ++ content
    compiled.foundAt frame (.between front ('#' :: '"' :: (content ++ '"' :: rest))) =
      some (.rule 18 ⟨front.width, .between (behind ++ ['"']) rest,
        [⟨3, behind.width, (behind ++ ['"']).width⟩,
          ⟨2, (front ++ ['#', '"']).width, behind.width⟩,
          ⟨1, front.width, (front ++ ['#', '"']).width⟩]⟩) := by
  have hmatch := @matchAt_quoted front rest content hcontent hrest
  have hsplit : '#' :: '"' :: (content ++ '"' :: rest) =
      ('#' :: '"' :: (content ++ ['"'])) ++ rest := by simp
  have hbehind : front ++ ['#', '"'] ++ content ++ ['"'] =
      front ++ '#' :: '"' :: (content ++ ['"']) := by simp
  rw [foundAt_hash_quote h]
  dsimp only at hmatch ⊢
  rw [hbehind, hsplit] at hmatch ⊢
  rw [nonEmptyAt_of_matchAt (List.cons_ne_nil _ _) hmatch]
  rfl

/-- The content of a quoted identifier is quoted text. -/
theorem quoted_of_reads {u : Text} (h : quotedContent.Reads front u rest) : Quoted u := by
  obtain ⟨count, h⟩ := h
  induction count generalizing front u with
  | zero =>
      cases h
      exact .nil
  | succ count ih =>
      obtain ⟨first, later, rfl, hfirst, hlater⟩ := h
      rcases hfirst with ⟨c, rfl, hc⟩ | hpair
      · rw [mem_compl_single] at hc
        exact (ih hlater).char (by simpa using hc)
      · rw [reads_literal.mp hpair]
        exact (ih hlater).pair

/-- What the pattern for quoted identifiers reads is quoted text between its two ends. -/
theorem quotedPattern_reads {u : Text} (h : quotedPattern.Reads front u rest) :
    ∃ inner, u = '#' :: '"' :: (inner ++ ['"']) ∧ Quoted inner := by
  obtain ⟨opener, _, rfl, hopener, inner, closer, rfl, hinner, d, rfl, hd⟩ := h
  rw [mem_single, beq_iff_eq] at hd
  exact ⟨inner, by rw [reads_literal.mp hopener, hd]; rfl, quoted_of_reads hinner⟩

/-! ## Whole lines of code -/

/-- The line opened a text literal in code and did not close it. -/
def Stranded (last : RuleStack × TokenRun) : Prop :=
  ∃ scopes before front after, Plain scopes ∧ last.1.top.contentScopes = textScopes scopes ∧
    last.2.tokens = before ++ textOpener scopes front :: after ∧
      ∀ token ∈ after, InText scopes token

/-- How the grammar stands behind a line that leaves a mode behind. -/
def EndsIn : Mode → RuleStack × TokenRun → Prop
  | .default, last => CodeStack last.1
  | .inside .comment, last => CommentStack last.1
  | .inside .text, last => Stranded last
  | .inside .quotedIdentifier, last => Stranded last

theorem stranded_of_quote (hstack : CodeStack stack) (hrun : run.stop ≤ front.width)
    (hcontent : Quoted content) :
    Stranded (compiled.takeAll (.between front ('"' :: content)) stack run) := by
  obtain ⟨inner, stop, hinner, htake⟩ :=
    takeAll_quote_opened hstack.grounded hstack.top.code hcontent hrun
  rw [htake]
  exact ⟨_, _, front, inner, hstack.top.plain, rfl, rfl, hinner⟩

/-- A quoted identifier that is not closed leaves a text literal open: its pattern gives a quote
back to match, and the quote behind that opens the literal. -/
theorem stranded_of_hash (hstack : CodeStack stack) (hrun : run.stop ≤ front.width)
    (hcontent : Quoted content) :
    Stranded (compiled.takeAll (.between front ('#' :: '"' :: content)) stack run) := by
  have hfound := @foundAt_hash_quote front content stack.top hstack.top.code
  cases hmatch : quotedPattern.nonEmptyAt (.between front ('#' :: '"' :: content)) with
  | none =>
      rw [hmatch, Option.map_none] at hfound
      rw [takeAll_skip hstack.grounded hfound]
      refine stranded_of_quote hstack ?_ hcontent
      rw [Text.width_append]
      omega
  | some result =>
      rw [hmatch, Option.map_some] at hfound
      obtain ⟨u, rest, htext, _, hreads, _, hstop⟩ := nonEmptyAt_reads hmatch
      obtain ⟨inner, rfl, hinner⟩ := quotedPattern_reads hreads
      have hsplit : content = inner ++ '"' :: rest := by simpa using htext
      rw [hsplit] at hcontent
      obtain ⟨later, rfl, hlater⟩ := hinner.quote_inside hcontent
      obtain ⟨run', hrun', htake⟩ := takeAll_onward hstack.grounded hrun hfound
      rw [htake, take_stack rfl]
      simp only [Found.result, hstop] at hrun' ⊢
      exact stranded_of_quote hstack hrun' hlater

/-- A block comment in code that closes leaves the rules as they were. -/
theorem takeAll_comment (hstack : CodeStack stack)
    (hcontent : commentContent? (content ++ '*' :: '/' :: rest) = some content)
    (hrun : run.stop ≤ front.width) :
    let behind := front ++ ['/', '*'] ++ content ++ ['*', '/']
    ∃ run', run'.stop ≤ behind.width ∧
      compiled.takeAll (.between front ('/' :: '*' :: (content ++ '*' :: '/' :: rest))) stack run =
        compiled.takeAll (.between behind rest) stack run' := by
  obtain ⟨run', hrun', htake⟩ :=
    takeAll_onward hstack.grounded hrun (foundAt_comment_opener hstack.top.code)
  have hinside : run'.stop ≤ (front ++ ['/', '*'] ++ content).width := by
    rw [Text.width_append]
    exact Nat.le_trans hrun' (Nat.le_add_right _ _)
  rw [htake, take_span rfl, Found.result]
  dsimp only
  generalize hframe : Frame.mk 1 _ _ = frame
  have hrule : (stack.push frame).top.rule = 1 := by rw [← hframe]; rfl
  exact takeAll_comment_closed (hstack.grounded.push frame) hrule hcontent hinside

theorem foundAt_end {frame : Frame} (h : IsCode frame) :
    compiled.foundAt frame (.between front []) = none := by
  rw [Option.eq_none_iff_forall_ne_some]
  intro found hfound
  obtain ⟨aim, hmem, haim⟩ := List.exists_of_findSome?_eq_some hfound
  obtain ⟨u, rest, htext, _, _, hread⟩ := Aim.at?_reads haim
  obtain ⟨rfl, rfl⟩ := List.append_eq_nil_iff.mp htext.symm
  rcases hread with ⟨pattern, result, rfl, rfl, hread⟩ | ⟨id, pattern, result, _, _, hne, _⟩
  · rcases aim_of_code h hmem with hcloser | ⟨rule, _, hrule⟩
    · cases hcloser
      cases reads_literal.mp hread
    · cases hrule
  · exact hne rfl

/-- Behind a line of code the grammar stands as its outline says. -/
theorem takeAll_code {mode : Mode} (h : Leaves text mode) (hstack : CodeStack stack)
    (hrun : run.stop ≤ front.width) :
    EndsIn mode (compiled.takeAll (.between front text) stack run) := by
  induction hlength : text.length using Nat.strongRecOn generalizing text front stack run with
  | ind length ih =>
      subst hlength
      cases h with
      | done =>
          rw [takeAll_end (foundAt_end hstack.top.code)]
          exact hstack
      | @char c text _ hopens hrest =>
          cases hfound : compiled.foundAt stack.top (.between front (c :: text)) with
          | none =>
              rw [takeAll_skip hstack.grounded hfound]
              refine ih text.length (Nat.lt_succ_self _) hrest hstack ?_ rfl
              rw [Text.width_append]
              omega
          | some found =>
              obtain ⟨run', hrun', htake⟩ := takeAll_onward hstack.grounded hrun hfound
              obtain ⟨tail, rest, rfl, hquiet, hstop, hstack'⟩ :=
                found_quiet hstack run hopens hfound
              rw [hstop] at hrun' htake
              rw [htake]
              have hbehind := (Leaves.char hopens hrest).behind hopens hquiet
              refine ih rest.length ?_ hbehind hstack' hrun' rfl
              simp only [List.length_cons, List.length_append]
              omega
      | lineComment hcontent =>
          obtain ⟨run', _, htake⟩ :=
            takeAll_onward hstack.grounded hrun (foundAt_lineComment hstack.top.code hcontent)
          rw [htake, take_stack rfl, Found.result, takeAll_end (foundAt_end hstack.top.code)]
          exact hstack
      | @text content rest _ hcontent hquote hrest =>
          obtain ⟨inner, _, htake⟩ :=
            takeAll_text hstack.grounded hstack.top.code hcontent hquote hrun
          rw [htake]
          refine ih rest.length ?_ hrest hstack (Nat.le_refl _) rfl
          simp only [List.length_cons, List.length_append]
          omega
      | textOpened hcontent => exact stranded_of_quote hstack hrun hcontent
      | @quotedIdentifier content rest _ hcontent hquote hrest =>
          obtain ⟨run', hrun', htake⟩ := takeAll_onward hstack.grounded hrun
            (foundAt_quotedIdentifier hstack.top.code hcontent (.single hquote))
          rw [htake, take_stack rfl]
          refine ih rest.length ?_ hrest hstack hrun' rfl
          simp only [List.length_cons, List.length_append]
          omega
      | quotedIdentifierOpened hcontent => exact stranded_of_hash hstack hrun hcontent
      | @comment content rest _ hcontent hrest =>
          obtain ⟨run', hrun', htake⟩ := takeAll_comment hstack hcontent hrun
          rw [htake]
          refine ih rest.length ?_ hrest hstack hrun' rfl
          simp only [List.length_cons, List.length_append]
          omega
      | commentOpened hcontent =>
          obtain ⟨run', _, htake⟩ := takeAll_onward hstack.grounded hrun
            (foundAt_comment_opener hstack.top.code)
          rw [htake, take_span rfl, Found.result,
            takeAll_comment_opened (hstack.grounded.push _) rfl hcontent]
          exact ⟨stack, _, hstack, rfl, rfl⟩

end Bundled

end TokenConcord
