import TokenConcord.Proofs.Bundled.Characters
import TokenConcord.Proofs.Pattern.Preferred

/-!
# Fixed texts and words

A fixed text matches where the line goes on with it. A word that stands by itself matches where
it is all of the word characters there, so at most one word of a list can match, and no word
matches the beginning of another one.
-/

namespace TokenConcord.Pattern

open Bundled Attempt
open CharSet (single)

variable {β : Type} {shared : Bool} {turns : List Turn} {front u rest : Text}
  {captures : Captures} {next : Continuation β}

/-! ## Fixed texts -/

theorem literal_cons (c : Char) {text : Text} (h : text ≠ []) :
    literal (c :: text) = .seq (.set (.single c)) (literal text) := by
  cases text with
  | nil => exact absurd rfl h
  | cons d text => rfl

theorem reads_literal {text : Text} : (literal text).Reads front u rest ↔ u = text := by
  induction text generalizing front u with
  | nil => exact Iff.rfl
  | cons c text ih =>
      by_cases htext : text = []
      · subst htext
        change (∃ d, u = [d] ∧ (single c).mem d = true) ↔ _
        simp [mem_single]
      · rw [literal_cons c htext]
        constructor
        · rintro ⟨v, w, rfl, ⟨d, rfl, hd⟩, hw⟩
          rw [mem_single, beq_iff_eq] at hd
          rw [hd, ih.mp hw]
          rfl
        · rintro rfl
          exact ⟨[c], text, rfl, ⟨c, rfl, by simp [mem_single]⟩, ih.mpr rfl⟩

theorem run_literal (text : Text) :
    (literal text).run shared turns (.between front (text ++ rest)) captures next =
      next (.between (front ++ text) rest) captures := by
  induction text generalizing front shared turns with
  | nil =>
      rw [List.append_nil]
      rfl
  | cons c text ih =>
      by_cases htext : text = []
      · subst htext
        change (set (single c)).run _ _ (.between front (c :: rest)) _ _ = _
        rw [run_set_cons, mem_single, beq_self_eq_true, if_pos rfl]
      · rw [literal_cons c htext, run, List.cons_append, run_set_cons, mem_single,
          beq_self_eq_true, if_pos rfl, ih]
        simp

theorem run_literal_failure {text line : Text} (h : ¬ text <+: line) :
    (literal text).run shared turns (.between front line) captures next = failure := by
  induction text generalizing front line shared turns with
  | nil => exact absurd List.nil_prefix h
  | cons c text ih =>
      cases line with
      | nil =>
          by_cases htext : text = []
          · subst htext
            rfl
          · rw [literal_cons c htext]
            rfl
      | cons d line =>
          by_cases htext : text = []
          · subst htext
            have hd : (d == c) = false := by
              refine beq_false_of_ne fun hdc => h ?_
              rw [hdc]
              exact List.cons_prefix_cons.mpr ⟨rfl, List.nil_prefix⟩
            change (set (single c)).run _ _ (.between front (d :: line)) _ _ = _
            rw [run_set_cons, mem_single, hd]
            rfl
          · rw [literal_cons c htext, run, run_set_cons, mem_single]
            by_cases hd : d = c
            · subst hd
              rw [beq_self_eq_true, if_pos rfl]
              exact ih fun hprefix => h (List.cons_prefix_cons.mpr ⟨rfl, hprefix⟩)
            · rw [beq_false_of_ne hd]
              rfl

theorem fails_run_literal {text line : Text} (h : ¬ text <+: line) {remaining : Nat} :
    ((literal text).run shared turns (.between front line) captures next).Fails remaining [] := by
  rw [run_literal_failure h]
  exact fails_failure

/-- A fixed text matches where the line goes on with it. -/
theorem matchAt_literal (text : Text) :
    (literal text).matchAt (.between front (text ++ rest)) =
      some ⟨front.width, .between (front ++ text) rest, []⟩ := by
  rw [matchAt, run_literal]
  rfl

theorem matchAt_literal_none {text line : Text} (h : ¬ text <+: line) :
    (literal text).matchAt (.between front line) = none := by
  rw [matchAt, run_literal_failure h]
  rfl

/-! ## Lists of texts -/

theorem oneOf_cons (word : String) {words : List String} (h : words ≠ []) :
    oneOf (word :: words) = .alt (literal word.toList) (oneOf words) := by
  cases words with
  | nil => exact absurd rfl h
  | cons other words => rfl

theorem reads_oneOf {words : List String} (h : words ≠ []) :
    (oneOf words).Reads front u rest ↔ ∃ word ∈ words, u = word.toList := by
  induction words with
  | nil => exact absurd rfl h
  | cons word words ih =>
      by_cases hwords : words = []
      · subst hwords
        change (literal word.toList).Reads front u rest ↔ _
        simp [reads_literal]
      · rw [oneOf_cons word hwords]
        change (literal word.toList).Reads front u rest ∨ (oneOf words).Reads front u rest ↔ _
        simp [reads_literal, ih hwords]

/-- A text of a list is taken where those listed before it lead nowhere. -/
theorem yields_run_oneOf {before after : List String} {word : String}
    {ahead : List (List Turn)} {remaining : Nat} {found : β}
    (hbefore : ∀ other ∈ before, ∀ turns,
      (literal other.toList).run false turns (.between front (word.toList ++ rest)) captures next =
        failure)
    (hnext : (next (.between (front ++ word.toList) rest) captures).Yields remaining ahead
      found) :
    ((oneOf (before ++ word :: after)).run false turns (.between front (word.toList ++ rest))
      captures next).Yields remaining ahead found := by
  induction before generalizing turns with
  | nil =>
      by_cases hafter : after = []
      · subst hafter
        change ((literal word.toList).run false turns _ _ _).Yields _ _ _
        rwa [run_literal]
      · rw [List.nil_append, oneOf_cons word hafter]
        refine Yields.orElse_left ?_
        rwa [run_literal]
  | cons first before ih =>
      obtain ⟨hfirst, hbefore⟩ := List.forall_mem_cons.mp hbefore
      rw [List.cons_append, oneOf_cons first (by simp)]
      exact Yields.orElse_failure (hfirst _) (ih hbefore)

/-- A text of a list matches where the line goes on with it and with none listed before it. -/
theorem matchAt_oneOf {before after : List String} {word : String}
    (hbefore : ∀ other ∈ before, ¬ other.toList <+: word.toList ++ rest) :
    (oneOf (before ++ word :: after)).matchAt (.between front (word.toList ++ rest)) =
      some ⟨front.width, .between (front ++ word.toList) rest, []⟩ := by
  refine matchAt_of_yields [] (yields_run_oneOf (fun other hmem turns => ?_) ?_)
  · exact run_literal_failure (hbefore other hmem)
  · exact fun visited _ => rfl

/-! ## Word boundaries -/

section Boundaries

variable {s : CharSet}

/-- All characters of the text are of the set. -/
def Within (s : CharSet) (text : Text) : Prop := ∀ c ∈ text, s.mem c = true

theorem memAt_some (s : CharSet) (c : Char) : s.memAt (some c) = s.mem c := rfl

theorem memAt_head {word : Text} (hne : word ≠ []) (h : Within s word) :
    s.memAt (word ++ rest).head? = true := by
  cases word with
  | nil => exact absurd rfl hne
  | cons c word => exact h c List.mem_cons_self

theorem memAt_getLast {word : Text} (hne : word ≠ []) (h : Within s word) :
    s.memAt (front ++ word).getLast? = true := by
  rw [List.getLast?_append_of_ne_nil _ hne, List.getLast?_eq_some_getLast hne]
  exact h _ (List.getLast_mem hne)

/-- Of two words that the same text begins with, each followed by no word character, neither is
longer. -/
theorem word_unique {word other more : Text} (hword : Within s word) (hother : Within s other)
    (hrest : s.memAt rest.head? = false) (hmore : s.memAt more.head? = false)
    (h : word ++ rest = other ++ more) : word = other := by
  induction word generalizing other with
  | nil =>
      cases other with
      | nil => rfl
      | cons c other =>
          rw [List.nil_append] at h
          subst h
          have hc := hother c List.mem_cons_self
          exact absurd (hrest.symm.trans hc) Bool.false_ne_true
  | cons c word ih =>
      cases other with
      | nil =>
          rw [List.nil_append] at h
          subst h
          have hc := hword c List.mem_cons_self
          exact absurd (hmore.symm.trans hc) Bool.false_ne_true
      | cons d other =>
          obtain ⟨rfl, htail⟩ := List.cons_eq_cons.mp h
          rw [ih (fun c hmem => hword c (List.mem_cons_of_mem _ hmem))
            (fun c hmem => hother c (List.mem_cons_of_mem _ hmem)) htail]

theorem run_wordBoundary :
    (look (.wordBoundary s)).run shared turns (.between front rest) captures next =
      if s.memAt front.getLast? = s.memAt rest.head? then failure
      else next (.between front rest) captures := by
  change (if (s.memAt front.getLast? != s.memAt rest.head?) = true then _ else _) = _
  by_cases h : s.memAt front.getLast? = s.memAt rest.head?
  · simp [h]
  · simp [h]

end Boundaries

/-! ## Words of a list -/

/-- The list has words, and all of them are made of word characters. -/
def AreWords (words : List String) : Prop :=
  words ≠ [] ∧ ∀ word ∈ words, word.toList ≠ [] ∧ Within wordClass word.toList

theorem reads_wordOf {words : List String} (h : words ≠ [])
    (hreads : (wordOf words).Reads front u rest) :
    ∃ word ∈ words, u = word.toList ∧
      wordClass.memAt (front ++ u).getLast? ≠ wordClass.memAt rest.head? := by
  obtain ⟨x, y, rfl, hx, rfl, hboundary⟩ := hreads
  obtain ⟨word, hmem, rfl⟩ := (reads_oneOf h).mp hx
  refine ⟨word, hmem, by simp, ?_⟩
  simpa [Assertion.holds] using hboundary

/-- A word of a list is read only where it is all of the word characters. -/
theorem eq_of_reads_wordOf {words : List String} (hwords : AreWords words) {word more : Text}
    (hword : Within wordClass word) (hrest : wordClass.memAt rest.head? = false)
    (hreads : (wordOf words).Reads front u more) (heq : word ++ rest = u ++ more) :
    ∃ other ∈ words, word = other.toList := by
  obtain ⟨other, hother, rfl, hboundary⟩ := reads_wordOf hwords.1 hreads
  obtain ⟨hne, hwithin⟩ := hwords.2 other hother
  rw [memAt_getLast hne hwithin] at hboundary
  have hmore : wordClass.memAt more.head? = false := by simpa using hboundary.symm
  exact ⟨other, hother, word_unique hword hwithin hrest hmore heq⟩

theorem yields_run_wordOf {words : List String} (hwords : AreWords words) {word : String}
    (hmem : word ∈ words) (hrest : wordClass.memAt rest.head? = false)
    {ahead : List (List Turn)} {remaining : Nat} {found : β}
    (hnext : (next (.between (front ++ word.toList) rest) captures).Yields remaining ahead
      found) :
    ((wordOf words).run false turns (.between front (word.toList ++ rest)) captures next).Yields
      remaining ahead found := by
  obtain ⟨hne, hwithin⟩ := hwords.2 word hmem
  obtain ⟨before, after, rfl, hfirst⟩ := List.eq_append_cons_of_mem hmem
  rw [wordOf, run]
  refine yields_run_oneOf (fun other hother turns => ?_) ?_
  · by_cases hprefix : other.toList <+: word.toList ++ rest
    · -- another word cannot end here: the word of the line goes on
      obtain ⟨more, hmore⟩ := hprefix
      obtain ⟨hother_ne, hother_within⟩ := hwords.2 other (List.mem_append_left _ hother)
      have hlast : wordClass.memAt more.head? = true := by
        by_contra hapart
        have hsame := word_unique hother_within hwithin (by simpa using hapart) hrest hmore
        rw [String.toList_injective hsame] at hother
        exact hfirst hother
      rw [← hmore, run_literal, boundary, run_wordBoundary,
        memAt_getLast hother_ne hother_within, hlast, if_pos rfl]
    · exact run_literal_failure hprefix
  · rw [boundary, run_wordBoundary, memAt_getLast hne hwithin, hrest,
      if_neg Bool.false_ne_true.symm]
    exact hnext

/-- Where the word characters at a position make up no word of the list, none matches. -/
theorem matchAt_wholeWord_none {words : List String} (hwords : AreWords words) {word : Text}
    (hword : Within wordClass word) (hrest : wordClass.memAt rest.head? = false)
    (hmem : ∀ other ∈ words, word ≠ other.toList) :
    (wholeWord words).matchAt (.between front (word ++ rest)) = none := by
  rw [Option.eq_none_iff_forall_ne_some]
  intro found hfound
  obtain ⟨u, more, heq, ⟨v, w, rfl, ⟨rfl, _⟩, hreads⟩, _⟩ := matchAt_reads hfound
  obtain ⟨other, hother, hsame⟩ := eq_of_reads_wordOf hwords hword hrest hreads heq
  exact hmem other hother hsame

/-- A word of the list matches where it is all of the word characters. -/
theorem matchAt_wholeWord {words : List String} (hwords : AreWords words) {word : String}
    (hmem : word ∈ words) (hfront : wordClass.memAt front.getLast? = false)
    (hrest : wordClass.memAt rest.head? = false) :
    (wholeWord words).matchAt (.between front (word.toList ++ rest)) =
      some ⟨front.width, .between (front ++ word.toList) rest, []⟩ := by
  obtain ⟨hne, hwithin⟩ := hwords.2 word hmem
  refine matchAt_of_yields [] ?_
  rw [wholeWord, run, boundary, run_wordBoundary, hfront, memAt_head hne hwithin,
    if_neg Bool.false_ne_true]
  exact yields_run_wordOf hwords hmem hrest fun visited _ => rfl

theorem matchAt_hashWord_none {words : List String} (hwords : AreWords words) {word : Text}
    (hword : Within wordClass word) (hrest : wordClass.memAt rest.head? = false)
    (hmem : ∀ other ∈ words, word ≠ other.toList) :
    (hashWord words).matchAt (.between front ('#' :: (word ++ rest))) = none := by
  rw [Option.eq_none_iff_forall_ne_some]
  intro found hfound
  obtain ⟨u, more, heq, ⟨v, w, rfl, ⟨c, rfl, _⟩, hreads⟩, _⟩ := matchAt_reads hfound
  obtain ⟨_, htail⟩ := List.cons_eq_cons.mp heq
  obtain ⟨other, hother, hsame⟩ := eq_of_reads_wordOf hwords hword hrest hreads htail
  exact hmem other hother hsame

theorem matchAt_hashWord {words : List String} (hwords : AreWords words) {word : String}
    (hmem : word ∈ words) (hrest : wordClass.memAt rest.head? = false) :
    (hashWord words).matchAt (.between front ('#' :: (word.toList ++ rest))) =
      some ⟨front.width, .between (front ++ '#' :: word.toList) rest, []⟩ := by
  refine matchAt_of_yields [] ?_
  rw [hashWord, run, run_set_cons, mem_single, beq_self_eq_true, if_pos rfl]
  refine yields_run_wordOf hwords hmem hrest fun visited _ => ?_
  simp

/-- The pattern for the word `null` is read in another order, which makes no difference. -/
theorem matchAt_null (cursor : Cursor) :
    nullPattern.matchAt cursor = (wholeWord ["null"]).matchAt cursor := rfl

end TokenConcord.Pattern
