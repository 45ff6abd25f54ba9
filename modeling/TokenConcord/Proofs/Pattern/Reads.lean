import TokenConcord.Proofs.Pattern.Position

/-!
# What a pattern reads

The texts that a pattern stands for, between the text in front of them and the text behind.
Whatever a run finds, it finds behind such a text. So a pattern without a text to read at a
position has no match there, and some of this shows in the characters that the pattern
mentions at all, at the beginning of what it reads, or behind the beginning.
-/

namespace TokenConcord.Pattern

/-! ## Texts of a pattern -/

/-- The text is read in a number of rounds, each by the same relation. -/
def Rounds (R : Text → Text → Text → Prop) : Nat → Text → Text → Text → Prop
  | 0, _, text, _ => text = []
  | count + 1, front, text, rest =>
      ∃ u v, text = u ++ v ∧ R front u (v ++ rest) ∧ Rounds R count (front ++ u) v rest

/-- The pattern reads the text between the text in front and the rest behind it. -/
def Reads : Pattern → Text → Text → Text → Prop
  | empty, _, text, _ => text = []
  | set s, _, text, _ => ∃ c, text = [c] ∧ s.mem c
  | look assertion, front, text, rest => text = [] ∧ assertion.holds front.getLast? rest
  | seq p q, front, text, rest =>
      ∃ u v, text = u ++ v ∧ p.Reads front u (v ++ rest) ∧ q.Reads (front ++ u) v rest
  | alt p q, front, text, rest => p.Reads front text rest ∨ q.Reads front text rest
  | group _ p, front, text, rest => p.Reads front text rest
  | bounded least further p _, front, text, rest =>
      ∃ count, least ≤ count ∧ count ≤ least + further ∧ Rounds p.Reads count front text rest
  | star p _, front, text, rest => ∃ count, Rounds p.Reads count front text rest
  | plus before p _, front, text, rest =>
      ∃ count, before < count ∧ Rounds p.Reads count front text rest

theorem Rounds.append {R : Text → Text → Text → Prop} {m n : Nat} {front u v rest : Text}
    (hu : Rounds R m front u (v ++ rest)) (hv : Rounds R n (front ++ u) v rest) :
    Rounds R (m + n) front (u ++ v) rest := by
  induction m generalizing front u with
  | zero =>
      cases hu
      simpa using hv
  | succ m ih =>
      obtain ⟨first, later, rfl, hfirst, hlater⟩ := hu
      rw [Nat.add_right_comm]
      refine ⟨first, later ++ v, List.append_assoc .., by simpa using hfirst, ?_⟩
      exact ih hlater (by simpa using hv)

theorem Rounds.forall_mem {R : Text → Text → Text → Prop} {P : Char → Prop}
    (hR : ∀ {front u rest}, R front u rest → ∀ c ∈ u, P c) {count : Nat} {front text rest : Text}
    (h : Rounds R count front text rest) : ∀ c ∈ text, P c := by
  induction count generalizing front text with
  | zero =>
      cases h
      exact fun c hmem => absurd hmem List.not_mem_nil
  | succ count ih =>
      obtain ⟨u, v, rfl, hu, hv⟩ := h
      intro c hmem
      rcases List.mem_append.mp hmem with hmem | hmem
      · exact hR hu c hmem
      · exact ih hv c hmem

/-! ## Runs read texts -/

variable {β : Type}

/-- Whatever the round finds, it finds by going on behind a text that the relation reads. -/
def Round.Follows (R : Text → Text → Text → Prop) (round : Round β) : Prop :=
  ∀ {front text captures next found}, (round (.between front text) captures next).Finds found →
    ∃ u rest captures', text = u ++ rest ∧ R front u rest ∧
      (next (.between (front ++ u) rest) captures').Finds found

section Rounds

variable {R : Text → Text → Text → Prop} {round : List Turn → Round β}

theorem Round.Follows.runTimes (hround : ∀ turns, (round turns).Follows R) (turns : List Turn)
    (count : Nat) : Round.Follows (Rounds R count) (runTimes round turns count) := by
  induction count with
  | zero =>
      intro front text captures next found h
      exact ⟨[], text, captures, rfl, rfl, by simpa [Pattern.runTimes] using h⟩
  | succ count ih =>
      intro front text captures next found h
      obtain ⟨u, _, _, rfl, hu, h⟩ := hround _ h
      obtain ⟨v, rest, captures', rfl, hv, h⟩ := ih h
      exact ⟨u ++ v, rest, captures', (List.append_assoc ..).symm, ⟨u, v, rfl, hu, hv⟩,
        by simpa using h⟩

theorem Round.Follows.runUpTo (hround : ∀ turns, (round turns).Follows R) (shared : Bool)
    (turns : List Turn) (greedy : Bool) (most : Nat) :
    Round.Follows (fun front u rest => ∃ count, count ≤ most ∧ Rounds R count front u rest)
      (runUpTo shared round turns greedy most) := by
  induction most with
  | zero =>
      intro front text captures next found h
      exact ⟨[], text, captures, rfl, ⟨0, Nat.le_refl _, rfl⟩, by simpa [Pattern.runUpTo] using h⟩
  | succ most ih =>
      intro front text captures next found h
      rcases Attempt.finds_prefer (Attempt.finds_onceIf h) with h | h
      · obtain ⟨u, _, _, rfl, hu, h⟩ := hround _ h
        obtain ⟨v, rest, captures', rfl, ⟨count, hcount, hv⟩, h⟩ := ih h
        exact ⟨u ++ v, rest, captures', (List.append_assoc ..).symm,
          ⟨count + 1, Nat.succ_le_succ hcount, u, v, rfl, hu, hv⟩, by simpa using h⟩
      · exact ⟨[], text, captures, rfl, ⟨0, Nat.zero_le _, rfl⟩, by simpa using h⟩

theorem Round.Follows.runLoop (hround : ∀ turns, (round turns).Follows R) (shared : Bool)
    (turns : List Turn) (greedy : Bool) (bound : Nat) :
    Round.Follows (fun front u rest => ∃ count, Rounds R count front u rest)
      (runLoop shared round turns greedy bound) := by
  induction bound with
  | zero => exact fun h => absurd h (Attempt.not_finds_failure _)
  | succ bound ih =>
      intro front text captures next found h
      rcases Attempt.finds_prefer (Attempt.finds_onceIf h) with h | h
      · obtain ⟨u, _, _, rfl, hu, h⟩ := hround _ h
        obtain ⟨v, rest, captures', rfl, ⟨count, hv⟩, h⟩ := ih h
        exact ⟨u ++ v, rest, captures', (List.append_assoc ..).symm,
          ⟨count + 1, u, v, rfl, hu, hv⟩, by simpa using h⟩
      · exact ⟨[], text, captures, rfl, ⟨0, rfl⟩, by simpa using h⟩

end Rounds

/-- A run goes on behind a text that the pattern reads. -/
theorem run_follows (p : Pattern) (shared : Bool) (turns : List Turn) :
    Round.Follows p.Reads (p.run (β := β) shared turns) := by
  induction p generalizing shared turns with
  | empty =>
      intro front text captures next found h
      exact ⟨[], text, captures, rfl, rfl, by simpa [run] using h⟩
  | set s =>
      intro front text captures next found h
      cases text with
      | nil => exact absurd h (Attempt.not_finds_failure _)
      | cons c rest =>
          simp only [run, Cursor.between_rest, Cursor.advance_between] at h
          split at h
          next hmem => exact ⟨[c], rest, captures, rfl, ⟨c, rfl, hmem⟩, h⟩
          · exact absurd h (Attempt.not_finds_failure _)
  | look assertion =>
      intro front text captures next found h
      by_cases hholds : assertion.holds front.getLast? text
      · refine ⟨[], text, captures, rfl, ⟨rfl, hholds⟩, ?_⟩
        simpa [run, hholds] using h
      · simp only [run, Cursor.between_before, Cursor.between_rest, hholds] at h
        exact absurd h (Attempt.not_finds_failure _)
  | seq p q ihp ihq =>
      intro front text captures next found h
      obtain ⟨u, _, _, rfl, hu, h⟩ := ihp _ _ h
      obtain ⟨v, rest, captures', rfl, hv, h⟩ := ihq _ _ h
      exact ⟨u ++ v, rest, captures', (List.append_assoc ..).symm, ⟨u, v, rfl, hu, hv⟩,
        by simpa using h⟩
  | alt p q ihp ihq =>
      intro front text captures next found h
      rcases Attempt.finds_orElse (Attempt.finds_onceIf h) with h | h
      · obtain ⟨u, rest, captures', rfl, hu, h⟩ := ihp _ _ h
        exact ⟨u, rest, captures', rfl, Or.inl hu, h⟩
      · obtain ⟨u, rest, captures', rfl, hu, h⟩ := ihq _ _ h
        exact ⟨u, rest, captures', rfl, Or.inr hu, h⟩
  | group index p ih =>
      intro front text captures next found h
      obtain ⟨u, rest, captures', rfl, hu, h⟩ := ih _ _ h
      exact ⟨u, rest, _, rfl, hu, h⟩
  | bounded least further p greedy ih =>
      intro front text captures next found h
      obtain ⟨u, _, _, rfl, hu, h⟩ := Round.Follows.runTimes (ih _) _ _ h
      obtain ⟨v, rest, captures', rfl, ⟨count, hcount, hv⟩, h⟩ :=
        Round.Follows.runUpTo (ih _) _ _ _ _ h
      exact ⟨u ++ v, rest, captures', (List.append_assoc ..).symm,
        ⟨least + count, Nat.le_add_right .., Nat.add_le_add_left hcount _, hu.append hv⟩,
        by simpa using h⟩
  | star p greedy ih =>
      intro front text captures next found h
      exact Round.Follows.runLoop (ih _) _ _ _ _ h
  | plus before p greedy ih =>
      intro front text captures next found h
      obtain ⟨u, _, _, rfl, hu, h⟩ := Round.Follows.runTimes (ih _) _ _ h
      obtain ⟨v, _, _, rfl, hv, h⟩ := ih _ _ h
      obtain ⟨w, rest, captures', rfl, ⟨count, hw⟩, h⟩ := Round.Follows.runLoop (ih _) _ _ _ _ h
      refine ⟨u ++ (v ++ w), rest, captures', by simp,
        ⟨before + (count + 1), Nat.lt_add_of_pos_right (Nat.succ_pos _),
          Rounds.append (by simpa using hu) ⟨v, w, rfl, hv, hw⟩⟩, by simpa using h⟩

/-- A match covers a text that the pattern reads. -/
theorem matchAt_reads {p : Pattern} {front text : Text} {found : Match}
    (h : p.matchAt (.between front text) = some found) :
    ∃ u rest, text = u ++ rest ∧ p.Reads front u rest ∧ found.start = front.width ∧
      found.stop = .between (front ++ u) rest := by
  obtain ⟨u, rest, captures, rfl, hu, _, heq⟩ := run_follows p false [] ⟨∅, h⟩
  cases heq
  exact ⟨u, rest, rfl, hu, rfl, rfl⟩

theorem nonEmptyAt_reads {p : Pattern} {front text : Text} {found : Match}
    (h : p.nonEmptyAt (.between front text) = some found) :
    ∃ u rest, text = u ++ rest ∧ u ≠ [] ∧ p.Reads front u rest ∧ found.start = front.width ∧
      found.stop = .between (front ++ u) rest := by
  obtain ⟨hmatch, hnonempty⟩ := Option.filter_eq_some_iff.mp h
  obtain ⟨u, rest, rfl, hu, hstart, hstop⟩ := matchAt_reads hmatch
  refine ⟨u, rest, rfl, ?_, hu, hstart, hstop⟩
  rintro rfl
  simp [Match.nonEmpty, hstart, hstop] at hnonempty

/-! ## Characters of a pattern -/

/-- Whether the pattern mentions the character at all. -/
def mentions (c : Char) : Pattern → Bool
  | empty => false
  | set s => s.mem c
  | look _ => false
  | seq p q => p.mentions c || q.mentions c
  | alt p q => p.mentions c || q.mentions c
  | group _ p => p.mentions c
  | bounded _ _ p _ => p.mentions c
  | star p _ => p.mentions c
  | plus _ p _ => p.mentions c

/-- Whether what the pattern reads may begin with the character. -/
def mayStart (c : Char) : Pattern → Bool
  | empty => false
  | set s => s.mem c
  | look _ => false
  | seq p q => p.mayStart c || (p.nullable && q.mayStart c)
  | alt p q => p.mayStart c || q.mayStart c
  | group _ p => p.mayStart c
  | bounded _ _ p _ => p.mayStart c
  | star p _ => p.mayStart c
  | plus _ p _ => p.mayStart c

/-- Whether the character may stand behind the beginning of what the pattern reads. -/
def mayFollow (c : Char) : Pattern → Bool
  | empty => false
  | set _ => false
  | look _ => false
  | seq p q => p.mayFollow c || q.mayFollow c || (p.consumes && q.mentions c)
  | alt p q => p.mayFollow c || q.mayFollow c
  | group _ p => p.mayFollow c
  | bounded _ _ p _ => p.mentions c
  | star p _ => p.mentions c
  | plus _ p _ => p.mentions c

theorem Reads.mentions {p : Pattern} {front text rest : Text} (h : p.Reads front text rest) :
    ∀ c ∈ text, p.mentions c = true := by
  induction p generalizing front text rest with
  | empty =>
      cases h
      exact fun c hmem => absurd hmem List.not_mem_nil
  | set s =>
      obtain ⟨d, rfl, hmem⟩ := h
      intro c hc
      rwa [List.mem_singleton.mp hc]
  | look assertion =>
      obtain ⟨rfl, _⟩ := h
      exact fun c hmem => absurd hmem List.not_mem_nil
  | seq p q ihp ihq =>
      obtain ⟨u, v, rfl, hu, hv⟩ := h
      intro c hmem
      rcases List.mem_append.mp hmem with hmem | hmem
      · simp [Pattern.mentions, ihp hu c hmem]
      · simp [Pattern.mentions, ihq hv c hmem]
  | alt p q ihp ihq =>
      intro c hmem
      rcases h with h | h
      · simp [Pattern.mentions, ihp h c hmem]
      · simp [Pattern.mentions, ihq h c hmem]
  | group index p ih => exact ih h
  | bounded least further p greedy ih =>
      obtain ⟨count, _, _, h⟩ := h
      exact h.forall_mem ih
  | star p greedy ih =>
      obtain ⟨count, h⟩ := h
      exact h.forall_mem ih
  | plus before p greedy ih =>
      obtain ⟨count, _, h⟩ := h
      exact h.forall_mem ih

theorem Reads.nullable {p : Pattern} {front rest : Text} (h : p.Reads front [] rest) :
    p.nullable = true := by
  induction p generalizing front rest with
  | empty => rfl
  | set s =>
      obtain ⟨c, hc, _⟩ := h
      cases hc
  | look assertion => rfl
  | seq p q ihp ihq =>
      obtain ⟨u, v, huv, hu, hv⟩ := h
      obtain ⟨rfl, rfl⟩ := List.append_eq_nil_iff.mp huv.symm
      simp [Pattern.nullable, ihp hu, ihq hv]
  | alt p q ihp ihq =>
      rcases h with h | h
      · simp [Pattern.nullable, ihp h]
      · simp [Pattern.nullable, ihq h]
  | group index p ih => exact ih h
  | bounded least further p greedy ih =>
      obtain ⟨count, hleast, _, h⟩ := h
      cases count with
      | zero => simp [Pattern.nullable, Nat.le_zero.mp hleast]
      | succ count =>
          obtain ⟨u, v, huv, hu, _⟩ := h
          obtain ⟨rfl, rfl⟩ := List.append_eq_nil_iff.mp huv.symm
          simp [Pattern.nullable, ih hu]
  | star p greedy ih => rfl
  | plus before p greedy ih =>
      obtain ⟨count, hcount, h⟩ := h
      cases count with
      | zero => exact absurd hcount (Nat.not_lt_zero _)
      | succ count =>
          obtain ⟨u, v, huv, hu, _⟩ := h
          obtain ⟨rfl, rfl⟩ := List.append_eq_nil_iff.mp huv.symm
          exact ih hu

/-- A round that reads something begins what all rounds read. -/
theorem Rounds.head {R : Text → Text → Text → Prop} {P : Char → Prop}
    (hR : ∀ {front c u rest}, R front (c :: u) rest → P c) {count : Nat} {front : Text} {c : Char}
    {text rest : Text} (h : Rounds R count front (c :: text) rest) : P c := by
  induction count generalizing front with
  | zero => cases h
  | succ count ih =>
      obtain ⟨u, v, huv, hu, hv⟩ := h
      cases u with
      | nil =>
          rw [List.nil_append] at huv
          subst huv
          exact ih hv
      | cons d u =>
          cases huv
          exact hR hu

theorem Reads.mayStart {p : Pattern} {front : Text} {c : Char} {text rest : Text}
    (h : p.Reads front (c :: text) rest) : p.mayStart c = true := by
  induction p generalizing front c text rest with
  | empty => cases h
  | set s =>
      obtain ⟨d, hd, hmem⟩ := h
      cases hd
      exact hmem
  | look assertion => cases h.1
  | seq p q ihp ihq =>
      obtain ⟨u, v, huv, hu, hv⟩ := h
      cases u with
      | nil =>
          rw [List.nil_append] at huv
          subst huv
          simp [Pattern.mayStart, hu.nullable, ihq hv]
      | cons d u =>
          cases huv
          simp [Pattern.mayStart, ihp hu]
  | alt p q ihp ihq =>
      rcases h with h | h
      · simp [Pattern.mayStart, ihp h]
      · simp [Pattern.mayStart, ihq h]
  | group index p ih => exact ih h
  | bounded least further p greedy ih =>
      obtain ⟨count, _, _, h⟩ := h
      exact h.head ih
  | star p greedy ih =>
      obtain ⟨count, h⟩ := h
      exact h.head ih
  | plus before p greedy ih =>
      obtain ⟨count, _, h⟩ := h
      exact h.head ih

theorem Reads.consumes {p : Pattern} {front : Text} {c : Char} {text rest : Text}
    (h : p.Reads front (c :: text) rest) : p.consumes = true := by
  induction p generalizing front c text rest with
  | empty => cases h
  | set s => rfl
  | look assertion => cases h.1
  | seq p q ihp ihq =>
      obtain ⟨u, v, huv, hu, hv⟩ := h
      cases u with
      | nil =>
          rw [List.nil_append] at huv
          subst huv
          simp [Pattern.consumes, ihq hv]
      | cons d u =>
          cases huv
          simp [Pattern.consumes, ihp hu]
  | alt p q ihp ihq =>
      rcases h with h | h
      · simp [Pattern.consumes, ihp h]
      · simp [Pattern.consumes, ihq h]
  | group index p ih => exact ih h
  | bounded least further p greedy ih =>
      obtain ⟨count, _, _, h⟩ := h
      exact h.head ih
  | star p greedy ih =>
      obtain ⟨count, h⟩ := h
      exact h.head ih
  | plus before p greedy ih =>
      obtain ⟨count, _, h⟩ := h
      exact h.head ih

theorem Reads.mayFollow {p : Pattern} {front : Text} {c : Char} {text rest : Text}
    (h : p.Reads front (c :: text) rest) : ∀ d ∈ text, p.mayFollow d = true := by
  intro d hmem
  induction p generalizing front c text rest with
  | empty => cases h
  | set s =>
      obtain ⟨e, he, _⟩ := h
      cases he
      exact absurd hmem List.not_mem_nil
  | look assertion => cases h.1
  | seq p q ihp ihq =>
      obtain ⟨u, v, huv, hu, hv⟩ := h
      cases u with
      | nil =>
          rw [List.nil_append] at huv
          subst huv
          simp [Pattern.mayFollow, ihq hv hmem]
      | cons e u =>
          cases huv
          rcases List.mem_append.mp hmem with hmem | hmem
          · simp [Pattern.mayFollow, ihp hu hmem]
          · simp [Pattern.mayFollow, hu.consumes, hv.mentions d hmem]
  | alt p q ihp ihq =>
      rcases h with h | h
      · simp [Pattern.mayFollow, ihp h hmem]
      · simp [Pattern.mayFollow, ihq h hmem]
  | group index p ih => exact ih h hmem
  | bounded least further p greedy ih =>
      exact h.mentions d (List.mem_cons_of_mem _ hmem)
  | star p greedy ih => exact h.mentions d (List.mem_cons_of_mem _ hmem)
  | plus before p greedy ih => exact h.mentions d (List.mem_cons_of_mem _ hmem)

/-- A pattern that cannot start with the next character has no match that consumes it. -/
theorem nonEmptyAt_eq_none {p : Pattern} {c : Char} (h : p.mayStart c = false)
    (front rest : Text) : p.nonEmptyAt (.between front (c :: rest)) = none := by
  rw [Option.eq_none_iff_forall_ne_some]
  intro found hfound
  obtain ⟨u, after, huv, hu, hreads, _⟩ := nonEmptyAt_reads hfound
  cases u with
  | nil => exact hu rfl
  | cons d u =>
      cases huv
      rw [hreads.mayStart] at h
      cases h

end TokenConcord.Pattern
