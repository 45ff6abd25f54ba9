import TokenConcord.Proofs.Bundled.Words
import TokenConcord.Proofs.Lexing.Numbers

/-!
# Numbers under the bundled grammar

The patterns for numbers take all of a number that is followed by nothing that could go on with
it. Digits alone are left to the pattern for integers, since the pattern for floats asks for a
point or an exponent behind them.
-/

namespace TokenConcord.Bundled

open Pattern Attempt Lexing
open CharSet (single between unions unions_spec)

variable {β : Type} {shared : Bool} {turns : List Turn} {front text u rest : Text}
  {captures : Captures} {next : Continuation β} {found : β}

/-! ## Sets -/

theorem ascending_between {first last : Char} (h : first.toNat ≤ last.toNat) :
    (between first last).Ascending :=
  List.pairwise_pair.mpr (Nat.lt_succ_of_le h)

theorem mem_unions {sets : List CharSet} (h : ∀ s ∈ sets, s.Ascending) (c : Char) :
    (unions sets).mem c = sets.any (·.mem c) :=
  (unions_spec h).2 c.toNat

theorem mem_pair {c d e : Char} :
    (unions [single c, single d]).mem e = true ↔ e = c ∨ e = d := by
  rw [mem_unions (by simp [ascending_single])]
  simp [mem_single]

theorem mem_digit (c : Char) : (between '0' '9').mem c = c.isDigit := by
  rw [mem_between]
  rfl

theorem mem_hexDigit (c : Char) : hexDigit.mem c = isHexDigit c := by
  rw [hexDigit, mem_unions (by simp [ascending_between])]
  simp only [List.any_cons, List.any_nil, Bool.or_false, mem_between, ← Bool.or_assoc]
  rfl

theorem stops_of {s : CharSet} {test : Char → Bool} (h : StopsAt test rest)
    (hs : ∀ c, s.mem c = true → test c = true) : Stops s rest := by
  intro c hc
  cases hcase : s.mem c with
  | false => rfl
  | true => rw [← h c hc, hs c hcase]

/-! ## Parts of numbers -/

theorem yields_run_digits {ahead : List (List Turn)} (hu : AreDigits u)
    (hrest : StopsAt Char.isDigit rest)
    (hnext : (next (.between (front ++ u) rest) captures).Yields rest.length ahead found)
    (hturns : turns ∉ ahead) :
    (digits.run shared turns (.between front (u ++ rest)) captures next).Yields
      (u ++ rest).length [] found :=
  yields_run_plus_set hu.1 (fun c hc => by rw [mem_digit, hu.2 c hc])
    (stops_of hrest fun c hc => by rwa [mem_digit] at hc) hnext hturns

theorem yields_run_exponent (hu : IsExponent u) (hrest : StopsAt Char.isDigit rest)
    (hnext : (next (.between (front ++ u) rest) captures).Yields rest.length [] found) :
    (exponent.run shared turns (.between front (u ++ rest)) captures next).Yields
      (u ++ rest).length [] found := by
  cases hu with
  | @unsigned mark digits hmark hdigits =>
      rw [List.cons_append, exponent, run, run_set_cons, mem_pair.mpr hmark, if_pos rfl, run]
      refine Yields.advance (yields_run_optional_none (fun next' => ?_) ?_ List.not_mem_nil)
        (Nat.lt_succ_self _)
      · refine fails_run_set fun c hc => Bool.eq_false_iff.mpr fun hsign => ?_
        have hdigit := hdigits.head hc
        rcases mem_pair.mp hsign with rfl | rfl <;> exact absurd hdigit (by decide)
      · exact yields_run_digits hdigits hrest (by simpa using hnext) List.not_mem_nil
  | @signed mark sign digits hmark hsign hdigits =>
      rw [List.cons_append, List.cons_append, exponent, run, run_set_cons, mem_pair.mpr hmark,
        if_pos rfl, run]
      refine Yields.advance (yields_run_optional ?_ List.not_mem_nil) (Nat.lt_succ_self _)
      rw [run_set_cons, mem_pair.mpr hsign, if_pos rfl]
      exact Yields.advance (yields_run_digits hdigits hrest (by simpa using hnext)
        List.not_mem_nil) (Nat.lt_succ_self _)

/-- An exponent or nothing is taken as it stands. -/
theorem yields_run_maybeExponent (hu : MaybeExponent u) (hrest : StopsAt inNumber rest)
    (hnext : (next (.between (front ++ u) rest) captures).Yields rest.length [] found) :
    ((bounded 0 1 exponent true).run shared turns (.between front (u ++ rest)) captures
      next).Yields (u ++ rest).length [.copy 0 :: .right :: turns] found := by
  rcases hu with rfl | hu
  · refine yields_run_optional_none (fun next' => ?_) (by simpa using hnext) List.not_mem_nil
    rw [exponent, run]
    refine fails_run_set (stops_of hrest fun c hc => ?_)
    rcases mem_pair.mp hc with rfl | rfl <;> decide
  · exact yields_run_optional (yields_run_exponent hu hrest.isDigit hnext) List.not_mem_nil

/-- A point and digits, with what the optional exponent behind them yields. -/
theorem yields_run_point {digits' : Text} (hdigits : AreDigits digits')
    (hrest : StopsAt Char.isDigit rest)
    (hbehind : ∀ shared, ((bounded 0 1 exponent true).run shared (.right :: .right :: turns)
      (.between (front ++ ['.'] ++ digits') rest) captures next).Yields rest.length
        [.copy 0 :: .right :: .right :: .right :: turns] found) :
    (fraction.run shared turns (.between front ('.' :: (digits' ++ rest))) captures next).Yields
      ('.' :: (digits' ++ rest)).length [] found := by
  rw [fraction, run, run_set_cons, mem_single, beq_self_eq_true, if_pos rfl, run]
  exact Yields.advance (yields_run_digits hdigits hrest (hbehind _) (by simp)) (Nat.lt_succ_self _)

/-- A point and digits, with an exponent or none. -/
theorem yields_run_fraction {digits' exponent' : Text} (hdigits : AreDigits digits')
    (hexponent : MaybeExponent exponent') (hrest : StopsAt inNumber rest)
    (hnext : (next (.between (front ++ '.' :: (digits' ++ exponent')) rest) captures).Yields
      rest.length [] found) :
    (fraction.run shared turns (.between front ('.' :: (digits' ++ exponent') ++ rest)) captures
      next).Yields ('.' :: (digits' ++ exponent') ++ rest).length [] found := by
  have hstop : StopsAt Char.isDigit (exponent' ++ rest) :=
    hexponent.stops (by decide) hrest.isDigit
  rw [List.cons_append, List.append_assoc]
  refine yields_run_point hdigits hstop fun shared => ?_
  exact yields_run_maybeExponent hexponent hrest (by simpa using hnext)

/-! ## Whole numbers -/

theorem matchAt_digits (h : AreDigits text) (hrest : StopsAt Char.isDigit rest) :
    digits.matchAt (.between front (text ++ rest)) =
      some ⟨front.width, .between (front ++ text) rest, []⟩ :=
  matchAt_of_yields [] (yields_run_digits h hrest (fun _ _ => rfl) List.not_mem_nil)

theorem matchAt_fraction {digits' exponent' : Text} (hdigits : AreDigits digits')
    (hexponent : MaybeExponent exponent') (hrest : StopsAt inNumber rest) :
    fraction.matchAt (.between front ('.' :: (digits' ++ exponent') ++ rest)) =
      some ⟨front.width, .between (front ++ '.' :: (digits' ++ exponent')) rest, []⟩ :=
  matchAt_of_yields [] (yields_run_fraction hdigits hexponent hrest fun _ _ => rfl)

theorem matchAt_float_fraction {whole digits' exponent' : Text} (hwhole : AreDigits whole)
    (hdigits : AreDigits digits') (hexponent : MaybeExponent exponent')
    (hrest : StopsAt inNumber rest) :
    floatPattern.matchAt (.between front (whole ++ '.' :: (digits' ++ exponent') ++ rest)) =
      some ⟨front.width, .between (front ++ (whole ++ '.' :: (digits' ++ exponent'))) rest, []⟩ := by
  have hbehind : Yields (Pattern.run (.alt fraction exponent) true [.right]
      (.between (front ++ whole) ('.' :: (digits' ++ exponent') ++ rest)) []
      fun stop captures visited => (some (Match.mk front.width stop captures), visited))
      ('.' :: (digits' ++ exponent') ++ rest).length [[.right]]
      ⟨front.width, .between (front ++ (whole ++ '.' :: (digits' ++ exponent'))) rest, []⟩ := by
    refine Yields.onceIf (.orElse_left ?_) List.not_mem_nil
    exact yields_run_fraction hdigits hexponent hrest fun _ _ => by simp
  rw [List.append_assoc]
  refine matchAt_of_yields [] ?_
  rw [floatPattern, run]
  exact yields_run_digits hwhole (.cons (by decide) _) hbehind (by simp)

theorem matchAt_float_exponent {whole exponent' : Text} (hwhole : AreDigits whole)
    (hexponent : IsExponent exponent') (hrest : StopsAt inNumber rest) :
    floatPattern.matchAt (.between front (whole ++ exponent' ++ rest)) =
      some ⟨front.width, .between (front ++ (whole ++ exponent')) rest, []⟩ := by
  have hstop : ∀ test : Char → Bool, test 'e' = false ∧ test 'E' = false →
      StopsAt test (exponent' ++ rest) := by
    intro test htest c hc
    cases hexponent with
    | unsigned hmark _ =>
        cases hc
        rcases hmark with rfl | rfl
        · exact htest.1
        · exact htest.2
    | signed hmark _ _ =>
        cases hc
        rcases hmark with rfl | rfl
        · exact htest.1
        · exact htest.2
  have hbehind : Yields (Pattern.run (.alt fraction exponent) true [.right]
      (.between (front ++ whole) (exponent' ++ rest)) []
      fun stop captures visited => (some (Match.mk front.width stop captures), visited))
      (exponent' ++ rest).length [[.right]]
      ⟨front.width, .between (front ++ (whole ++ exponent')) rest, []⟩ := by
    have hpoint : Stops (single '.') (exponent' ++ rest) :=
      stops_of (hstop (· == '.') (by decide)) fun c hc => by rwa [mem_single] at hc
    have hfraction : ∀ next' : Continuation Match, (fraction.run true [.left, .right]
        (.between (front ++ whole) (exponent' ++ rest)) [] next').Fails
        (exponent' ++ rest).length [] := by
      intro next'
      rw [fraction, run]
      exact fails_run_set hpoint
    refine Yields.onceIf (.orElse_right (hfraction _) (yields_run_exponent hexponent
      hrest.isDigit fun _ _ => by simp) fun _ hmem => absurd hmem List.not_mem_nil)
      List.not_mem_nil
  rw [List.append_assoc]
  refine matchAt_of_yields [] ?_
  rw [floatPattern, run]
  exact yields_run_digits hwhole (hstop _ (by decide)) hbehind (by simp)

/-- Characters with which a float goes on behind its first digit. -/
def inFloat (c : Char) : Bool := c.isDigit || c == '.' || c == 'e' || c == 'E'

/-- Digits alone are no float. -/
theorem matchAt_float_none (h : AreDigits text) (hrest : StopsAt inFloat rest) :
    floatPattern.matchAt (.between front (text ++ rest)) = none := by
  rw [Option.eq_none_iff_forall_ne_some]
  intro found hfound
  obtain ⟨u, behind, heq, ⟨x, y, rfl, hx, hy⟩, _⟩ := matchAt_reads hfound
  have hdigits : ∀ c ∈ x, c.isDigit = true := fun c hmem => by
    rw [← mem_digit]
    exact hx.mentions c hmem
  cases y with
  | nil => exact absurd hy.nullable (by decide)
  | cons c y =>
      have hc : c = '.' ∨ c = 'e' ∨ c = 'E' := by
        have hstart := hy.mayStart
        simp only [mayStart, fraction, exponent, nullable, Bool.false_and, Bool.or_false,
          Bool.or_eq_true, mem_single, beq_iff_eq, mem_pair] at hstart
        exact hstart
      have hcount : countWhile Char.isDigit (x ++ (c :: y ++ behind)) = x.length :=
        countWhile_append hdigits (StopsAt.cons (by rcases hc with rfl | rfl | rfl <;> decide) _)
      rw [List.append_assoc] at heq
      have hdigit : StopsAt Char.isDigit rest := hrest.mono fun c hc => by simp [inFloat, hc]
      rw [← heq, h.countWhile hdigit] at hcount
      obtain ⟨_, hrest'⟩ := List.append_inj heq hcount
      have hstop := hrest c (by rw [hrest']; rfl)
      rcases hc with rfl | rfl | rfl <;> exact absurd hstop (by decide)

theorem matchAt_hex (h : IsHexNumber text) (hrest : StopsAt inNumber rest) :
    hexPattern.matchAt (.between front (text ++ rest)) =
      some ⟨front.width, .between (front ++ text) rest, []⟩ := by
  cases h with
  | @digits mark digits hmark hne hdigits =>
      have hstop : Stops hexDigit rest := stops_of hrest fun c hc => by
        rw [mem_hexDigit] at hc
        simp [inNumber, hc]
      have hmem : ∀ c ∈ digits, hexDigit.mem c = true := fun c hc => by
        rw [mem_hexDigit, hdigits c hc]
      refine matchAt_of_yields [] ?_
      rw [List.cons_append, List.cons_append, hexPattern, run, run_set_cons, mem_single,
        beq_self_eq_true, if_pos rfl, run, run_set_cons, mem_pair.mpr hmark, if_pos rfl]
      refine Yields.advance (yields_run_plus_set hne hmem hstop (fun _ _ => by simp)
        List.not_mem_nil) ?_
      exact Nat.lt_succ_of_lt (Nat.lt_succ_self _)

/-- A text that is no hexadecimal number for the reference lexer is none for the pattern. -/
theorem matchAt_hex_none (h : hexLength text = 0) :
    hexPattern.matchAt (.between front text) = none := by
  rw [Option.eq_none_iff_forall_ne_some]
  intro found hfound
  obtain ⟨u, behind, rfl, hreads, _⟩ := matchAt_reads hfound
  obtain ⟨_, _, rfl, ⟨zero, rfl, hzero⟩, _, _, rfl, ⟨mark, rfl, hmark⟩, count, hcount, hdigits⟩ :=
    hreads
  rw [mem_single, beq_iff_eq] at hzero
  subst hzero
  cases count with
  | zero => exact absurd hcount (Nat.lt_irrefl 0)
  | succ count =>
      obtain ⟨_, more, rfl, ⟨d, rfl, hd⟩, _⟩ := hdigits
      rw [mem_hexDigit] at hd
      have hpos : countWhile isHexDigit (d :: (more ++ behind)) ≠ 0 := by simp [countWhile, hd]
      unfold hexLength at h
      simp only [List.cons_append, List.nil_append, if_pos (mem_pair.mp hmark),
        if_neg hpos] at h
      omega

end TokenConcord.Bundled
