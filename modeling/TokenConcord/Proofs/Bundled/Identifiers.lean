import TokenConcord.Proofs.Bundled.Words
import TokenConcord.Proofs.Lexing.Delimited

/-!
# Identifiers

The pattern for identifiers takes what the reference lexer takes: all further characters of the
segment, and all further segments that a point joins to it. A quoted identifier is taken up to
its closing quote, if it has one, and otherwise up to the first one of the last two quotes.
-/

namespace TokenConcord.Pattern

open Bundled Attempt Lexing

variable {β : Type} {shared : Bool} {front rest : Text} {captures : Captures} {found : β}

/-! ## Segments -/

/-- The pattern for one more segment of an identifier. -/
def segment : Pattern :=
  .seq (.set (.single '.')) (.seq (.set identifierStart) (.star (.set identifierPart) true))

/-- Without a point in front of it no segment starts. -/
theorem fails_run_segment {turns : List Turn} {text : Text} {next : Continuation β}
    {remaining : Nat}
    (h : ∀ d more, text = '.' :: d :: more → isIdentifierStart d = false) :
    (segment.run shared turns (.between front text) captures next).Fails remaining [] := by
  rw [segment, run]
  cases text with
  | nil => exact fails_failure
  | cons c text =>
      rw [run_set_cons, mem_single]
      by_cases hc : c = '.'
      · subst hc
        rw [beq_self_eq_true, if_pos rfl, run]
        refine fails_run_set fun d hd => ?_
        cases text with
        | nil => cases hd
        | cons e more =>
            cases hd
            rw [mem_identifierStart]
            exact h d more rfl
      · rw [beq_false_of_ne hc]
        exact fails_failure

section Tail

variable {outer : List Turn} {next : Continuation β}

theorem yields_runLoop_stop {text : Text} {bound : Nat} (hbound : text.length < bound)
    (h : ∀ d more, text = '.' :: d :: more → isIdentifierStart d = false)
    (hnext : (next (.between front text) captures).Yields text.length [] found) :
    (runLoop true (segment.run true) outer true bound (.between front text) captures next).Yields
      text.length [outer] found := by
  cases bound with
  | zero => exact absurd hbound (Nat.not_lt_zero _)
  | succ bound =>
      refine Yields.onceIf (.orElse_right (fails_run_segment h) hnext ?_) List.not_mem_nil
      exact fun _ hmem => absurd hmem List.not_mem_nil

/-- What comes behind a segment: the loop over further segments, with rounds enough for the
text. -/
def SegmentsThen (outer : List Turn) (next segmentsThen : Continuation β) (captures : Captures)
    (most : Nat) : Prop :=
  ∀ front text, text.length ≤ most → ∃ bound, text.length < bound ∧
    segmentsThen (.between front text) captures =
      runLoop true (segment.run true) outer true bound (.between front text) captures next

/-- Where no segment goes on, the loop over its characters leaves it. -/
theorem yields_leave_segment {inner : List Turn} (hinner : inner ∉ [outer]) {text : Text}
    {bound : Nat} (hbound : text.length < bound) {segmentsThen : Continuation β}
    (hpart : ∀ c, text.head? = some c → isIdentifierPart c = false)
    (hthen : (segmentsThen (.between front text) captures).Yields text.length [outer] found) :
    (runLoop true ((set identifierPart).run shared) inner true bound (.between front text)
      captures segmentsThen).Yields text.length [inner, outer] found := by
  cases bound with
  | zero => exact absurd hbound (Nat.not_lt_zero _)
  | succ bound =>
      refine Yields.onceIf (.orElse_right (fails_run_set fun c hc => ?_) hthen ?_) hinner
      · rw [mem_identifierPart]
        exact hpart c hc
      · exact fun _ hmem => absurd hmem List.not_mem_nil

/-- Where the identifier ends, both loops end. -/
theorem yields_leave_identifier {inner : List Turn} (hinner : inner ∉ [outer]) {text : Text}
    {bound : Nat} (hbound : text.length < bound) {segmentsThen : Continuation β}
    (hthen : SegmentsThen outer next segmentsThen captures text.length)
    (hpart : ∀ c, text.head? = some c → isIdentifierPart c = false)
    (hsegment : ∀ d more, text = '.' :: d :: more → isIdentifierStart d = false)
    (hnext : (next (.between front text) captures).Yields text.length [] found) :
    (runLoop true ((set identifierPart).run shared) inner true bound (.between front text)
      captures segmentsThen).Yields text.length [inner, outer] found := by
  obtain ⟨bound', hbound', hsame⟩ := hthen front text (Nat.le_refl _)
  refine yields_leave_segment hinner hbound hpart ?_
  rw [hsame]
  exact yields_runLoop_stop hbound' hsegment hnext

/-- Where a point joins a further segment, the loop over segments goes on inside it. -/
theorem yields_runLoop_segment {d : Char} (hstart : isIdentifierStart d = true) {more : Text}
    {bound : Nat} (h : ∀ inner ∉ [outer],
      (runLoop true ((set identifierPart).run true) inner true (more.length + 1)
        (.between (front ++ ['.'] ++ [d]) more) captures fun cursor captures =>
          runLoop true (segment.run true) outer true bound cursor captures next).Yields
        more.length [inner, outer] found) :
    (runLoop true (segment.run true) outer true (bound + 1) (.between front ('.' :: d :: more))
      captures next).Yields ('.' :: d :: more).length [outer] found := by
  refine Yields.onceIf (.orElse_left ?_) List.not_mem_nil
  rw [segment, run, run_set_cons, mem_single, beq_self_eq_true, if_pos rfl, run, run_set_cons,
    mem_identifierStart, hstart, if_pos rfl]
  refine Yields.advance (h _ fun hmem => ?_) (Nat.lt_succ_of_lt (Nat.lt_succ_self _))
  have hlength := congrArg List.length (List.mem_singleton.mp hmem)
  simp only [List.length_cons] at hlength
  omega

/-- From inside a segment, all that continues the identifier is taken. The segment is a loop
of its own, and behind it comes the loop over further segments. -/
theorem yields_run_identifierTail (outer : List Turn) (next : Continuation β)
    {inner : List Turn} (hinner : inner ∉ [outer]) {text : Text}
    {bound : Nat} (hbound : text.length < bound) {segmentsThen : Continuation β}
    (hthen : SegmentsThen outer next segmentsThen captures text.length)
    (hnext : (next (.between (front ++ text.take (identifierTail text))
      (text.drop (identifierTail text))) captures).Yields
        (text.drop (identifierTail text)).length [] found) :
    (runLoop true ((set identifierPart).run shared) inner true bound (.between front text)
      captures segmentsThen).Yields text.length [inner, outer] found := by
  fun_induction identifierTail text generalizing front inner bound segmentsThen shared with
  | case1 =>
      exact yields_leave_identifier hinner hbound hthen (fun c hc => by cases hc)
        (fun d more h => by cases h) (by simpa using hnext)
  | case2 c text hpart ih =>
      cases bound with
      | zero => exact absurd hbound (Nat.not_lt_zero _)
      | succ bound =>
          have hless := Nat.lt_of_succ_lt_succ hbound
          have hlater : SegmentsThen outer next segmentsThen captures text.length :=
            fun front' text' h => hthen front' text' (Nat.le_succ_of_le h)
          refine Yields.mono (Yields.onceIf (.orElse_left ?_) List.not_mem_nil) ?_
          · rw [run_set_cons, mem_identifierPart, hpart, if_pos rfl]
            exact (ih hinner hless hlater (by simpa using hnext)).advance (Nat.lt_succ_self _)
          · simp
  | case3 d more hstart hdot ih =>
      obtain ⟨bound', hbound', hsame⟩ := hthen front ('.' :: d :: more) (Nat.le_refl _)
      obtain ⟨bound', rfl⟩ := Nat.exists_eq_add_one.mpr (Nat.zero_lt_of_lt hbound')
      have hless : more.length < bound' :=
        Nat.lt_of_succ_lt (Nat.lt_of_succ_lt_succ hbound')
      refine yields_leave_segment hinner hbound (fun c hc => ?_) ?_
      · cases hc
        simpa using hdot
      · rw [hsame]
        refine yields_runLoop_segment hstart fun inner' hinner' => ?_
        refine ih hinner' (Nat.lt_succ_self _) ?_ (by simpa using hnext)
        exact fun front' text' h => ⟨bound', Nat.lt_of_le_of_lt h hless, rfl⟩
  | case4 d more hstart hdot =>
      refine yields_leave_identifier hinner hbound hthen (fun c hc => ?_) (fun e rest h => ?_)
        (by simpa using hnext)
      · cases hc
        simpa using hdot
      · cases h
        simpa using hstart
  | case5 hdot =>
      refine yields_leave_identifier hinner hbound hthen (fun c hc => ?_)
        (fun d more h => by cases h) (by simpa using hnext)
      cases hc
      simpa using hdot
  | case6 c text hpart hdot =>
      refine yields_leave_identifier hinner hbound hthen (fun d hd => ?_) (fun d more h => ?_)
        (by simpa using hnext)
      · cases hd
        simpa using hpart
      · cases h
        exact absurd rfl hdot

end Tail

/-- The pattern for identifiers takes the identifier that the reference lexer takes. -/
theorem matchAt_identifier {c : Char} (hc : isIdentifierStart c = true) (text : Text) :
    identifierPattern.matchAt (.between front (c :: text)) =
      some ⟨front.width,
        .between (front ++ c :: text.take (identifierTail text)) (text.drop (identifierTail text)),
        [⟨2, front.width, (front ++ c :: text.take (identifierTail text)).width⟩]⟩ := by
  have hat : (c == '@') = false := by
    refine beq_false_of_ne ?_
    rintro rfl
    exact absurd hc (by decide)
  refine matchAt_of_yields [] ?_
  rw [identifierPattern, run, run, runTimes, runUpTo]
  refine Yields.orElse_failure ?_ ?_
  · rw [run, run_set_cons, mem_single, hat]
    rfl
  · change ((group 2 _).run true [.right] (.between front (c :: text)) [] _).Yields _ _ _
    rw [run, run, run_set_cons, mem_identifierStart, hc, if_pos rfl, run]
    refine Yields.advance (yields_run_identifierTail [.right, .right, .right]
      (fun stop captures visited =>
        (some ⟨front.width, stop, ⟨2, front.width, stop.offset⟩ :: captures⟩, visited))
      ?_ (Nat.lt_succ_self _) ?_ ?_) (Nat.lt_succ_self _)
    · simp
    · exact fun front' text' _ => ⟨text'.length + 1, Nat.lt_succ_self _, rfl⟩
    · exact fun visited _ => by simp

/-! ## Quoted identifiers -/

/-- The pattern for a character other than a quote, or for a doubled quote. -/
def quotedUnit : Pattern := .alt (.set (CharSet.single '"').compl) (literal ['"', '"'])

theorem mem_compl_single (c d : Char) : (CharSet.single c).compl.mem d = !(d == c) := by
  rw [CharSet.mem, CharSet.holds_compl, ← mem_single]
  rfl

section Quoted

variable {turns : List Turn} {next : Continuation β}

theorem yields_run_quotedUnit_char {c : Char} (hc : c ≠ '"') {text : Text} {less : Nat}
    {ahead : List (List Turn)} (hless : less < (c :: text).length)
    (h : (next (.between (front ++ [c]) text) captures).Yields less ahead found) :
    (quotedUnit.run true turns (.between front (c :: text)) captures next).Yields
      (c :: text).length [turns] found := by
  refine Yields.onceIf (.orElse_left ?_) List.not_mem_nil
  rw [run_set_cons, mem_compl_single, beq_false_of_ne hc]
  exact h.advance hless

theorem yields_run_quotedUnit_pair {text : Text} {less : Nat} {ahead : List (List Turn)}
    (hless : less < ('"' :: '"' :: text).length)
    (h : (next (.between (front ++ ['"', '"']) text) captures).Yields less ahead found) :
    (quotedUnit.run true turns (.between front ('"' :: '"' :: text)) captures next).Yields
      ('"' :: '"' :: text).length [turns] found := by
  refine Yields.onceIf (.orElse_failure ?_ ?_) List.not_mem_nil
  · rw [run_set_cons, mem_compl_single]
    rfl
  · change ((literal ['"', '"']).run true _ (.between front (['"', '"'] ++ text)) _ _).Yields _ _ _
    rw [run_literal]
    exact h.advance hless

theorem fails_run_quotedUnit {rest : Text} (hrest : ¬ QuoteNext rest) :
    (quotedUnit.run true turns (.between front ('"' :: rest)) captures next).Fails
      ('"' :: rest).length [turns] := by
  have hpair : ¬ ['"', '"'] <+: '"' :: rest := fun hprefix => by
    obtain ⟨more, hmore⟩ := hprefix
    cases hmore
    exact hrest rfl
  refine Fails.onceIf (Fails.orElse (fails_run_set fun c hc => ?_) (fails_run_literal hpair))
  cases hc
  exact mem_compl_single '"' '"'

/-- The loop over quoted text takes all of it, where it stops behind that. -/
theorem yields_runLoop_quoted {content rest : Text} (hcontent : Quoted content)
    (hstop : ∀ bound, (runLoop true (quotedUnit.run true) turns true (bound + 1)
      (.between (front ++ content) rest) captures next).Yields rest.length
        [turns, .body :: turns] found)
    {bound : Nat} (hbound : content.length < bound) :
    (runLoop true (quotedUnit.run true) turns true bound (.between front (content ++ rest))
      captures next).Yields (content ++ rest).length [turns, .body :: turns] found := by
  have hturns : turns ∉ [.body :: turns] := by simp
  obtain ⟨bound, rfl⟩ := Nat.exists_eq_add_one.mpr (Nat.zero_lt_of_lt hbound)
  induction hcontent generalizing front bound with
  | nil => simpa using hstop bound
  | char hc htext ih =>
      have hless := Nat.lt_of_succ_lt_succ hbound
      obtain ⟨bound, rfl⟩ := Nat.exists_eq_add_one.mpr (Nat.zero_lt_of_lt hless)
      refine Yields.onceIf (.orElse_left ?_) hturns
      exact yields_run_quotedUnit_char hc (Nat.lt_succ_self _)
        (ih (by simpa using hstop) bound hless)
  | pair htext ih =>
      have hless := Nat.lt_of_succ_lt_succ hbound
      obtain ⟨bound, rfl⟩ := Nat.exists_eq_add_one.mpr (Nat.zero_lt_of_lt hless)
      refine Yields.onceIf (.orElse_left ?_) hturns
      exact yields_run_quotedUnit_pair (Nat.lt_succ_of_lt (Nat.lt_succ_self _))
        (ih (by simpa using hstop) bound (Nat.lt_of_succ_lt hless))

/-- The loop stops at a quote that is not doubled. -/
theorem yields_runLoop_single (hrest : ¬ QuoteNext rest) (bound : Nat)
    (hnext : (next (.between front ('"' :: rest)) captures).Yields ('"' :: rest).length [] found) :
    (runLoop true (quotedUnit.run true) turns true (bound + 1) (.between front ('"' :: rest))
      captures next).Yields ('"' :: rest).length [turns, .body :: turns] found := by
  refine Yields.mono (Yields.onceIf (.orElse_right (fails_run_quotedUnit hrest) hnext ?_)
    List.not_mem_nil) (by simp)
  exact fun _ _ => List.not_mem_nil

/-- The loop stops in front of the last two quotes of a line as well, where it cannot be gone on
without a quote: it takes the two first, and finds no place behind them to stop at. -/
theorem yields_runLoop_last (hrest : '"' ∉ rest) (bound : Nat)
    (hstuck : ∀ {front text captures result}, '"' ∉ text →
      ¬ (next (.between front text) captures).Finds result)
    (hnext : ∀ visited,
      (next (.between front ('"' :: '"' :: rest)) captures visited).1 = some found) :
    (runLoop true (quotedUnit.run true) turns true (bound + 1)
      (.between front ('"' :: '"' :: rest)) captures next).Yields ('"' :: '"' :: rest).length
        [turns, .body :: turns] found := by
  refine Yields.mono (Yields.onceIf (.orElse_skip (fun result hfinds => ?_) hnext)
    List.not_mem_nil) (by simp)
  obtain ⟨u, later, _, htext, hreads, hfinds⟩ := run_follows quotedUnit _ _ hfinds
  rcases hreads with ⟨c, rfl, hc⟩ | hpair
  · obtain ⟨rfl, -⟩ := List.cons.inj htext
    rw [mem_compl_single] at hc
    exact absurd hc (by decide)
  · rw [reads_literal.mp hpair] at htext hfinds
    obtain rfl : rest = later := by simpa using htext
    obtain ⟨v, last, _, rfl, -, hfinds⟩ :=
      Round.Follows.runLoop (run_follows quotedUnit true) _ _ _ _ hfinds
    exact hstuck (fun hmem => hrest (List.mem_append_right _ hmem)) hfinds

end Quoted

/-- The pattern closes a quoted identifier at a quote with such a rest: no further quote comes
next, or the next one is the last of the line, so that nothing closes behind the two. -/
inductive EndsQuoted : Text → Prop
  | single {rest : Text} : ¬ QuoteNext rest → EndsQuoted rest
  | last {rest : Text} : '"' ∉ rest → EndsQuoted ('"' :: rest)

/-- The pattern for quoted identifiers takes one that closes up to its closing quote. -/
theorem matchAt_quoted {content : Text} (hcontent : Quoted content) (hrest : EndsQuoted rest) :
    let behind := front ++ ['#', '"'] ++ content
    quotedPattern.matchAt (.between front ('#' :: '"' :: (content ++ '"' :: rest))) =
      some ⟨front.width, .between (behind ++ ['"']) rest,
        [⟨3, behind.width, (behind ++ ['"']).width⟩,
          ⟨2, (front ++ ['#', '"']).width, behind.width⟩,
          ⟨1, front.width, (front ++ ['#', '"']).width⟩]⟩ := by
  have hline : '#' :: '"' :: (content ++ '"' :: rest) =
      ['#', '"'] ++ (content ++ '"' :: rest) := rfl
  refine matchAt_of_yields [] ?_
  rw [hline, quotedPattern, run, run, run_literal, run, run, quotedContent, run]
  refine Yields.advance (yields_runLoop_quoted hcontent (fun bound => ?_) ?_) ?_
  · cases hrest with
    | single hrest =>
        refine yields_runLoop_single hrest bound ?_
        rw [run, run_set_cons, mem_single, beq_self_eq_true, if_pos rfl]
        exact fun visited _ => rfl
    | last hrest =>
        refine yields_runLoop_last hrest bound (fun hquote hfinds => ?_) fun visited => ?_
        · obtain ⟨u, later, _, rfl, ⟨c, rfl, hc⟩, -⟩ := run_follows (.group 3 _) _ _ hfinds
          rw [mem_single, beq_iff_eq] at hc
          exact hquote (hc ▸ List.mem_cons_self)
        · rw [run, run_set_cons, mem_single, beq_self_eq_true, if_pos rfl]
          rfl
  · simp only [Cursor.between_remaining, List.length_append]
    omega
  · simp only [List.cons_append, List.nil_append, Cursor.between_remaining, List.length_cons]
    omega

/-- The pattern for line comments takes the rest of the line. -/
theorem matchAt_lineComment {content : Text} (h : '\n' ∉ content) :
    lineCommentPattern.matchAt (.between front ('/' :: '/' :: content)) =
      some ⟨front.width, .between (front ++ '/' :: '/' :: content) [], []⟩ := by
  have hcontent : ∀ c ∈ content, (CharSet.single '\n').compl.mem c = true := by
    intro c hmem
    have hc : c ≠ '\n' := fun hc => h (hc ▸ hmem)
    rw [mem_compl_single, beq_false_of_ne hc]
    rfl
  have hline : '/' :: '/' :: content = '/' :: '/' :: (content ++ []) := by rw [List.append_nil]
  refine matchAt_of_yields [] ?_
  rw [hline, lineCommentPattern, run, run_set_cons, mem_single, beq_self_eq_true, if_pos rfl, run,
    run_set_cons, mem_single, beq_self_eq_true, if_pos rfl, run]
  refine Yields.advance (yields_run_star_set hcontent (fun c hc => by cases hc) ?_
    List.not_mem_nil) ?_
  · intro visited _
    simp [run, Assertion.holds]
  · simp only [List.append_nil, Cursor.between_remaining, List.length_cons]
    omega

end TokenConcord.Pattern
