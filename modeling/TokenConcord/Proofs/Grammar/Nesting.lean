import TokenConcord.Proofs.Grammar.Coverage

/-!
# Captures nest by position

The captures of a match are opened in the order of their index, and each is closed when one opens
behind its end. While a capture is open it stands under the scopes of those around it. If each
capture lies inside those of a smaller index or apart from them, the tokens of the match lie end to
end, and each carries the scopes of captures that enclose it. A capture may come too late, when the
tokens have passed its end already: then it gives its scopes to none. If captures that lie apart come
in the order of their index, none comes too late, and each token carries the scopes of all captures
that enclose it.
-/

namespace TokenConcord

/-! ## Spans of groups -/

/-- Where a group of a match lies, and the scopes given to it. -/
structure GroupSpan where
  index : Nat
  start : Nat
  stop : Nat
  scopes : List String
  deriving DecidableEq, Repr

namespace GroupSpan

/-- The span lies inside another one. -/
def Within (inner outer : GroupSpan) : Prop := outer.start ≤ inner.start ∧ inner.stop ≤ outer.stop

/-- The spans have nothing in common. -/
def Apart (first second : GroupSpan) : Prop :=
  first.stop ≤ second.start ∨ second.stop ≤ first.start

/-- The token lies inside the span. -/
def Encloses (span : GroupSpan) (token : ScopedToken) : Prop :=
  span.start ≤ token.start ∧ token.stop ≤ span.stop

instance (span : GroupSpan) : DecidablePred span.Encloses :=
  fun _ => inferInstanceAs (Decidable (_ ∧ _))

instance (inner outer : GroupSpan) : Decidable (inner.Within outer) :=
  inferInstanceAs (Decidable (_ ∧ _))

instance (first second : GroupSpan) : Decidable (first.Apart second) :=
  inferInstanceAs (Decidable (_ ∨ _))

end GroupSpan

/-- The span of the group that a rule gives scopes to. A group that took no part in the match or
matched nothing has none. -/
def Match.span? (found : Match) (rule : CaptureRule) : Option GroupSpan :=
  match found.group? rule.index with
  | none => none
  | some (start, stop) =>
      if start = stop then none else some ⟨rule.index, start, stop, rule.scopes⟩

/-- The spans of the numbered groups that rules give scopes to, in the order of the rules. -/
def Match.spans (found : Match) (rules : List CaptureRule) : List GroupSpan :=
  (rules.filter (·.index != 0)).filterMap found.span?

/-- The scopes inside the innermost of the open captures. -/
def scopesInside (base : List String) (captures : List OpenCapture) : List String :=
  (captures.head?.map (·.scopes)).getD base

/-- Open a capture over a span, behind the captures that end in front of it. -/
def openSpan (base : List String) (span : GroupSpan) (captures : List OpenCapture)
    (run : TokenRun) : List OpenCapture × TokenRun :=
  let (captures, run) := closeCaptures span.start captures run
  let scopes := scopesInside base captures
  (⟨span.stop, scopes ++ span.scopes⟩ :: captures, run.coverTo span.start scopes)

/-- Cover spans in turn, as `coverCaptures` does with the groups of a match. -/
def coverSpans (base : List String) :
    List GroupSpan → List OpenCapture → TokenRun → TokenRun
  | [], captures, run =>
      captures.foldl (fun run capture => run.coverTo capture.stop capture.scopes) run
  | span :: spans, captures, run =>
      let (captures, run) := openSpan base span captures run
      coverSpans base spans captures run

variable {found : Match} {rules : List CaptureRule} {base scopes : List String}
  {captures : List OpenCapture} {run run' run'' : TokenRun}

theorem coverCaptures_eq (found : Match) (base : List String) (rules : List CaptureRule)
    (captures : List OpenCapture) (run : TokenRun) :
    coverCaptures found base rules captures run =
      coverSpans base (rules.filterMap found.span?) captures run := by
  induction rules generalizing captures run with
  | nil => rfl
  | cons rule rules ih =>
      rw [coverCaptures, List.filterMap_cons, Match.span?]
      cases found.group? rule.index with
      | none => exact ih captures run
      | some ends =>
          obtain ⟨start, stop⟩ := ends
          dsimp only
          split
          · exact ih captures run
          · exact ih _ _

theorem Match.mem_spans {span : GroupSpan} (h : span ∈ found.spans rules) :
    found.group? span.index = some (span.start, span.stop) ∧ span.start ≠ span.stop := by
  obtain ⟨rule, -, hspan⟩ := List.mem_filterMap.mp h
  unfold Match.span? at hspan
  split at hspan
  · cases hspan
  next start stop hgroup =>
    split at hspan
    · cases hspan
    next hne =>
      cases hspan
      exact ⟨hgroup, hne⟩

/-- Spans come in the order of the index. -/
theorem Match.pairwise_spans (h : rules.Pairwise (·.index ≤ ·.index)) :
    (found.spans rules).Pairwise (·.index ≤ ·.index) := by
  have hindex : ∀ rule span, found.span? rule = some span → span.index = rule.index := by
    intro rule span hspan
    unfold Match.span? at hspan
    split at hspan
    · cases hspan
    · split at hspan
      · cases hspan
      · cases hspan
        rfl
  apply (h.filter _).filterMap
  intro first second hle span hspan other hother
  rw [hindex first span hspan, hindex second other hother]
  exact hle

/-! ## Runs of tokens -/

namespace TokenRun

variable {P : ScopedToken → Prop}

/-- The other run goes on from the run with tokens that lie end to end. None of them is empty, and
all are of a kind. -/
def Continues (P : ScopedToken → Prop) (run run' : TokenRun) : Prop :=
  ∃ added, run'.tokens = run.tokens ++ added ∧ Tiles run.stop added run'.stop ∧
    ∀ token ∈ added, token.start < token.stop ∧ P token

theorem Continues.refl (P : ScopedToken → Prop) (run : TokenRun) : Continues P run run :=
  ⟨[], (List.append_nil _).symm, rfl, fun _ hmem => absurd hmem List.not_mem_nil⟩

theorem Continues.trans (h : Continues P run run') (h' : Continues P run' run'') :
    Continues P run run'' := by
  obtain ⟨added, htokens, htiles, hadded⟩ := h
  obtain ⟨more, htokens', htiles', hmore⟩ := h'
  refine ⟨added ++ more, by rw [htokens', htokens, List.append_assoc], ?_, ?_⟩
  · exact Tiles.append_iff.mpr ⟨run'.stop, htiles, htiles'⟩
  · exact List.forall_mem_append.mpr ⟨hadded, hmore⟩

theorem coverTo_stop (run : TokenRun) (stop : Nat) (scopes : List String) :
    (run.coverTo stop scopes).stop = max run.stop stop := by
  unfold coverTo
  split
  next hle => exact (Nat.max_eq_left hle).symm
  next hlt => exact (Nat.max_eq_right (Nat.le_of_not_le hlt)).symm

theorem continues_coverTo {stop : Nat}
    (h : run.stop < stop → P ⟨run.stop, stop, scopes, false⟩) :
    Continues P run (run.coverTo stop scopes) := by
  unfold coverTo
  split
  · exact .refl P run
  next hlt =>
    have hpos : run.stop < stop := Nat.lt_of_not_le hlt
    refine ⟨_, rfl, ⟨rfl, Nat.le_of_lt hpos, rfl⟩, ?_⟩
    exact List.forall_mem_singleton.mpr ⟨hpos, h hpos⟩

end TokenRun

open TokenRun

/-! ## Scopes over a stretch

The spans that were read so far are `done`, and those that follow are `rest`. Whether those that lie
apart come in order is `ordered`. -/

variable {ordered : Prop} {done rest spans chosen : List GroupSpan} {span next : GroupSpan}
  {offset offset' start stop : Nat}

/-- How a span lies to one before it: inside it, behind it, or in front of it if spans may come out
of order. -/
def GroupSpan.Follows (ordered : Prop) (first second : GroupSpan) : Prop :=
  second.Within first ∨ first.stop ≤ second.start ∨ ¬ ordered ∧ second.stop ≤ first.start

/-- The token carries the scopes of a match, and behind them those of spans that enclose it, in
their order. These are all that enclose it if spans come in order. -/
def Carries (ordered : Prop) (base : List String) (spans : List GroupSpan) (token : ScopedToken) :
    Prop :=
  token.merged = false ∧ ∃ chosen, chosen.Sublist (spans.filter (·.Encloses token)) ∧
    token.scopes = base ++ chosen.flatMap (·.scopes) ∧
    (ordered → chosen = spans.filter (·.Encloses token))

/-- Scopes for the stretch between two offsets: those of the match and of some spans that enclose
the stretch. If spans come in order, these are the ones that go on behind the first offset. -/
def StandOver (ordered : Prop) (base : List String) (done : List GroupSpan) (offset stop : Nat)
    (scopes : List String) : Prop :=
  ∃ chosen, chosen.Sublist done ∧ scopes = base ++ chosen.flatMap (·.scopes) ∧
    (offset < stop → (∀ span ∈ chosen, span.start ≤ offset ∧ stop ≤ span.stop) ∧
      (ordered → chosen = done.filter (offset < ·.stop)))

namespace StandOver

theorem shorten (h : StandOver ordered base done offset stop scopes) {stop' : Nat}
    (hle : stop' ≤ stop) : StandOver ordered base done offset stop' scopes := by
  obtain ⟨chosen, hsublist, hscopes, hstretch⟩ := h
  refine ⟨chosen, hsublist, hscopes, fun hlt => ?_⟩
  obtain ⟨hencloses, hall⟩ := hstretch (Nat.lt_of_lt_of_le hlt hle)
  refine ⟨fun span hmem => ?_, hall⟩
  obtain ⟨hstart, hstop⟩ := hencloses span hmem
  exact ⟨hstart, Nat.le_trans hle hstop⟩

theorem mono (h : StandOver ordered base done offset stop scopes) (hle : offset ≤ offset') :
    StandOver ordered base done offset' stop scopes := by
  obtain ⟨chosen, hsublist, hscopes, hstretch⟩ := h
  refine ⟨chosen, hsublist, hscopes, fun hlt => ?_⟩
  obtain ⟨hencloses, hall⟩ := hstretch (Nat.lt_of_le_of_lt hle hlt)
  refine ⟨fun span hmem => ?_, fun hordered => ?_⟩
  · obtain ⟨hstart, hstop⟩ := hencloses span hmem
    exact ⟨Nat.le_trans hstart hle, hstop⟩
  · -- A span that goes on behind the first offset goes on to the end of the stretch.
    rw [hall hordered]
    apply List.filter_congr
    intro span hmem
    rw [decide_eq_decide]
    constructor
    · intro hbehind
      have hchosen : span ∈ chosen := by
        rw [hall hordered]
        exact List.mem_filter.mpr ⟨hmem, decide_eq_true hbehind⟩
      exact Nat.lt_of_lt_of_le hlt (hencloses span hchosen).2
    · exact Nat.lt_of_le_of_lt hle

/-- A further span that stops before the stretch has no part in it. -/
theorem add (h : StandOver ordered base done offset stop scopes) (hspan : span.stop ≤ offset) :
    StandOver ordered base (done ++ [span]) offset stop scopes := by
  obtain ⟨chosen, hsublist, hscopes, hstretch⟩ := h
  refine ⟨chosen, hsublist.trans (List.sublist_append_left _ _), hscopes, fun hlt => ?_⟩
  obtain ⟨hencloses, hall⟩ := hstretch hlt
  refine ⟨hencloses, fun hordered => ?_⟩
  rw [List.filter_append, ← hall hordered]
  simp [Nat.not_lt.mpr hspan]

/-- A token over the whole stretch carries the scopes. The spans that follow must not reach into
the stretch if spans come in order. -/
theorem carries (h : StandOver ordered base done offset stop scopes) (hlt : offset < stop)
    (hrest : ordered → ∀ span ∈ rest, stop ≤ span.start) :
    Carries ordered base (done ++ rest) ⟨offset, stop, scopes, false⟩ := by
  obtain ⟨chosen, hsublist, hscopes, hstretch⟩ := h
  obtain ⟨hencloses, hall⟩ := hstretch hlt
  have hchosen : chosen.filter (·.Encloses ⟨offset, stop, scopes, false⟩) = chosen :=
    List.filter_eq_self.mpr fun span hmem => decide_eq_true (hencloses span hmem)
  refine ⟨rfl, chosen, ?_, hscopes, fun hordered => ?_⟩
  · rw [← hchosen]
    exact (hsublist.trans (List.sublist_append_left _ _)).filter _
  · have hbehind : rest.filter (·.Encloses ⟨offset, stop, scopes, false⟩) = [] := by
      rw [List.filter_eq_nil_iff]
      intro span hmem hspan
      have hahead := hrest hordered span hmem
      have hstart := (of_decide_eq_true hspan).1
      dsimp only at hstart
      omega
    rw [List.filter_append, hbehind, List.append_nil, hall hordered]
    apply List.filter_congr
    intro span hmem
    rw [decide_eq_decide]
    constructor
    · intro hafter
      refine hencloses span ?_
      rw [hall hordered]
      exact List.mem_filter.mpr ⟨hmem, decide_eq_true hafter⟩
    · intro hspan
      exact Nat.lt_of_lt_of_le hlt hspan.2

/-- The scopes for a further span that starts where the stretch does, or has been passed. Spans around
it are those that enclose the stretch. -/
theorem push (h : StandOver ordered base done offset (next.start + 1) scopes)
    (hstart : offset = next.start ∨ next.stop ≤ offset)
    (hfollows : ∀ span ∈ done, span.Follows ordered next) :
    StandOver ordered base (done ++ [next]) offset next.stop (scopes ++ next.scopes) := by
  obtain ⟨chosen, hsublist, hscopes, hstretch⟩ := h
  refine ⟨chosen ++ [next], hsublist.append (List.Sublist.refl _), ?_, fun hlt => ?_⟩
  · rw [hscopes, List.flatMap_append, List.append_assoc]
    simp
  · have hoffset : offset = next.start := hstart.resolve_right (Nat.not_le.mpr hlt)
    obtain ⟨hencloses, hall⟩ := hstretch (by omega)
    refine ⟨fun span hmem => ?_, fun hordered => ?_⟩
    · rcases List.mem_append.mp hmem with hmem | hmem
      · obtain ⟨hbegins, hbehind⟩ := hencloses span hmem
        -- The span goes on behind the start of the next one, so that one lies inside it.
        rcases hfollows span (hsublist.subset hmem) with hwithin | hbefore | ⟨-, hbefore⟩
        · exact ⟨hbegins, hwithin.2⟩
        · omega
        · omega
      · rw [List.mem_singleton.mp hmem]
        exact ⟨Nat.le_of_eq hoffset.symm, Nat.le_refl _⟩
    · rw [List.filter_append, ← hall hordered]
      simp [hlt]

end StandOver

/-! ## Open captures -/

/-- The open captures, the innermost first, stand over the stretches up to their ends, each from
where the one inside it ends. Where none is open no span that was read goes on, if spans come in
order. -/
def Stacked (ordered : Prop) (base : List String) (done : List GroupSpan) :
    Nat → List OpenCapture → Prop
  | offset, [] => ordered → ∀ span ∈ done, span.stop ≤ offset
  | offset, capture :: outer =>
      StandOver ordered base done offset capture.stop capture.scopes ∧
        Stacked ordered base done (max offset capture.stop) outer

namespace Stacked

theorem mono (h : Stacked ordered base done offset captures) (hle : offset ≤ offset') :
    Stacked ordered base done offset' captures := by
  induction captures generalizing offset offset' with
  | nil => exact fun hordered span hmem => Nat.le_trans (h hordered span hmem) hle
  | cons capture outer ih => exact ⟨h.1.mono hle, ih h.2 (by omega)⟩

theorem add (h : Stacked ordered base done offset captures) (hspan : span.stop ≤ offset) :
    Stacked ordered base (done ++ [span]) offset captures := by
  induction captures generalizing offset with
  | nil =>
      intro hordered
      exact List.forall_mem_append.mpr ⟨h hordered, List.forall_mem_singleton.mpr hspan⟩
  | cons capture outer ih => exact ⟨h.1.add hspan, ih h.2 (by omega)⟩

/-- The scopes inside the innermost capture stand over all that lies in front of its end. -/
theorem inside (h : Stacked ordered base done offset captures)
    (hhead : ∀ capture ∈ captures.head?, stop ≤ capture.stop) :
    StandOver ordered base done offset stop (scopesInside base captures) := by
  cases captures with
  | nil =>
      refine ⟨[], List.nil_sublist _, by simp [scopesInside], fun _ => ⟨by simp, fun hordered => ?_⟩⟩
      symm
      rw [List.filter_eq_nil_iff]
      intro span hmem hbehind
      exact Nat.not_lt.mpr (h hordered span hmem) (of_decide_eq_true hbehind)
  | cons capture outer => exact h.1.shorten (hhead capture rfl)

/-- Opening a capture where the tokens have come to its start, or have passed its end. -/
theorem push (h : Stacked ordered base done offset captures)
    (hhead : ∀ capture ∈ captures.head?, next.start < capture.stop)
    (hstart : offset = next.start ∨ next.stop ≤ offset)
    (hfollows : ∀ span ∈ done, span.Follows ordered next) :
    Stacked ordered base (done ++ [next]) offset
      (⟨next.stop, scopesInside base captures ++ next.scopes⟩ :: captures) := by
  refine ⟨(h.inside hhead).push hstart hfollows, ?_⟩
  exact (h.mono (Nat.le_max_left _ _)).add (Nat.le_max_right _ _)

/-- Covering up to an offset that no open capture ends before. -/
theorem continues (h : Stacked ordered base done run.stop captures)
    (hhead : ∀ capture ∈ captures.head?, stop ≤ capture.stop)
    (hrest : ordered → ∀ span ∈ rest, stop ≤ span.start) :
    Continues (Carries ordered base (done ++ rest)) run
      (run.coverTo stop (scopesInside base captures)) :=
  continues_coverTo fun hlt => (h.inside hhead).carries hlt hrest

/-- Closing captures in front of an offset. -/
theorem close (h : Stacked ordered base done run.stop captures)
    (hrest : ordered → ∀ span ∈ rest, start ≤ span.start) :
    let closed := closeCaptures start captures run
    Stacked ordered base done closed.2.stop closed.1 ∧
      Continues (Carries ordered base (done ++ rest)) run closed.2 ∧
      (∀ capture ∈ closed.1.head?, start < capture.stop) ∧
      run.stop ≤ closed.2.stop ∧ closed.2.stop ≤ max run.stop start := by
  induction captures generalizing run with
  | nil => exact ⟨h, .refl _ run, by simp [closeCaptures], Nat.le_refl _, Nat.le_max_left _ _⟩
  | cons capture outer ih =>
      obtain ⟨hover, houter⟩ := h
      rw [closeCaptures]
      split
      next hle =>
        have hnext : Continues (Carries ordered base (done ++ rest)) run
            (run.coverTo capture.stop capture.scopes) :=
          continues_coverTo fun hlt => hover.carries hlt fun hordered span hmem =>
            Nat.le_trans hle (hrest hordered span hmem)
        have hstop := coverTo_stop run capture.stop capture.scopes
        rw [← hstop] at houter
        obtain ⟨hstacked, hcontinues, hhead, hfirst, hlast⟩ := ih houter
        exact ⟨hstacked, hnext.trans hcontinues, hhead, by omega, by omega⟩
      next hlt =>
        refine ⟨⟨hover, houter⟩, .refl _ run, ?_, Nat.le_refl _, Nat.le_max_left _ _⟩
        intro other hother
        cases hother
        exact Nat.lt_of_not_le hlt

/-- Closing all captures. -/
theorem close_all (h : Stacked ordered base done run.stop captures) :
    let closed := captures.foldl (fun run capture => run.coverTo capture.stop capture.scopes) run
    Stacked ordered base done closed.stop [] ∧ Continues (Carries ordered base done) run closed := by
  induction captures generalizing run with
  | nil => exact ⟨h, .refl _ run⟩
  | cons capture outer ih =>
      obtain ⟨hover, houter⟩ := h
      have hnext : Continues (Carries ordered base (done ++ [])) run
          (run.coverTo capture.stop capture.scopes) :=
        continues_coverTo fun hlt => hover.carries hlt fun _ _ hmem => by cases hmem
      rw [List.append_nil] at hnext
      rw [← coverTo_stop run capture.stop capture.scopes] at houter
      obtain ⟨hstacked, hcontinues⟩ := ih houter
      exact ⟨hstacked, hnext.trans hcontinues⟩

end Stacked

/-! ## Spans in turn -/

/-- The offset does not lie inside the span. It does not lie behind the span either if spans come in
order. -/
def Uncut (ordered : Prop) (offset : Nat) (span : GroupSpan) : Prop :=
  offset ≤ span.start ∨ ¬ ordered ∧ span.stop ≤ offset

theorem uncut_max (h : Uncut ordered offset span) (h' : Uncut ordered offset' span) :
    Uncut ordered (max offset offset') span := by
  rcases Nat.le_total offset offset' with hle | hle
  · rwa [Nat.max_eq_right hle]
  · rwa [Nat.max_eq_left hle]

theorem Uncut.le (h : Uncut ordered offset span) (hordered : ordered) : offset ≤ span.start :=
  h.resolve_right fun hpassed => hpassed.1 hordered

/-- The start of a span cuts none that follows it. -/
theorem GroupSpan.Follows.uncut (h : span.Follows ordered next) (hspan : span.start < span.stop) :
    Uncut ordered span.start next := by
  rcases h with hwithin | hbehind | hbefore
  · exact Or.inl hwithin.1
  · exact Or.inl (by omega)
  · exact Or.inr hbefore

/-- Opening a capture over the next span. The tokens come to its start, unless they have passed
it. -/
theorem Stacked.open_next (h : Stacked ordered base done run.stop captures)
    (huncut : Uncut ordered run.stop next) (hfollows : ∀ span ∈ done, span.Follows ordered next)
    (hrest : ∀ span ∈ rest, Uncut ordered next.start span) :
    let opened := openSpan base next captures run
    Stacked ordered base (done ++ [next]) opened.2.stop opened.1 ∧
      Continues (Carries ordered base (done ++ next :: rest)) run opened.2 ∧
      opened.2.stop = max run.stop next.start := by
  have hahead : ordered → ∀ span ∈ next :: rest, next.start ≤ span.start := by
    intro hordered
    refine List.forall_mem_cons.mpr ⟨Nat.le_refl _, fun span hmem => ?_⟩
    exact (hrest span hmem).le hordered
  obtain ⟨hstacked, hclosed, hhead, hfirst, hlast⟩ := h.close hahead
  rw [openSpan]
  generalize closeCaptures next.start captures run = closed at hstacked hclosed hhead hfirst hlast ⊢
  obtain ⟨inner, closed⟩ := closed
  dsimp only at hstacked hclosed hhead hfirst hlast ⊢
  have hstop : (closed.coverTo next.start (scopesInside base inner)).stop =
      max run.stop next.start := by
    rw [coverTo_stop]
    omega
  refine ⟨?_, hclosed.trans ?_, hstop⟩
  · apply (hstacked.mono (by omega)).push hhead ?_ hfollows
    rw [hstop]
    rcases huncut with hle | ⟨-, hle⟩
    · exact Or.inl (Nat.max_eq_right hle)
    · exact Or.inr (Nat.le_trans hle (Nat.le_max_left _ _))
  · exact hstacked.continues (fun capture hmem => Nat.le_of_lt (hhead capture hmem)) hahead

/-- Covering spans in turn goes on with tokens that carry the scopes of spans, up to an offset where
no capture is open. -/
theorem coverSpans_continues (h : Stacked ordered base done run.stop captures)
    (hspans : ∀ span ∈ spans, span.start < span.stop)
    (hfollows : (done ++ spans).Pairwise (GroupSpan.Follows ordered))
    (huncut : ∀ span ∈ spans, Uncut ordered run.stop span) :
    let covered := coverSpans base spans captures run
    Stacked ordered base (done ++ spans) covered.stop [] ∧
      Continues (Carries ordered base (done ++ spans)) run covered := by
  induction spans generalizing done captures run with
  | nil =>
      rw [List.append_nil]
      exact h.close_all
  | cons next spans ih =>
      obtain ⟨-, hlater, hdone⟩ := List.pairwise_append.mp hfollows
      obtain ⟨hnext, -⟩ := List.pairwise_cons.mp hlater
      obtain ⟨hpos, hspans⟩ := List.forall_mem_cons.mp hspans
      obtain ⟨hhere, huncut⟩ := List.forall_mem_cons.mp huncut
      have hstarts : ∀ span ∈ spans, Uncut ordered next.start span :=
        fun span hmem => (hnext span hmem).uncut hpos
      obtain ⟨hopen, hopened, hstop⟩ :=
        h.open_next hhere (fun span hmem => hdone span hmem next List.mem_cons_self) hstarts
      have hassoc : done ++ next :: spans = done ++ [next] ++ spans := by simp
      rw [hassoc] at hfollows hopened ⊢
      obtain ⟨hlast, hcontinues⟩ := ih hopen hspans hfollows fun span hmem => by
        rw [hstop]
        exact uncut_max (huncut span hmem) (hstarts span hmem)
      exact ⟨hlast, hopened.trans hcontinues⟩

theorem coverSpans_stop_le {bound : Nat} (base : List String)
    (hspans : ∀ span ∈ spans, span.start ≤ bound ∧ span.stop ≤ bound)
    (hcaptures : ∀ capture ∈ captures, capture.stop ≤ bound) (hrun : run.stop ≤ bound) :
    (coverSpans base spans captures run).stop ≤ bound := by
  induction spans generalizing captures run with
  | nil =>
      rw [coverSpans]
      induction captures generalizing run with
      | nil => exact hrun
      | cons capture captures ih =>
          obtain ⟨hstop, hothers⟩ := List.forall_mem_cons.mp hcaptures
          exact ih hothers (coverTo_stop_le hrun hstop _)
  | cons span spans ih =>
      obtain ⟨⟨hstart, hstop⟩, hspans⟩ := List.forall_mem_cons.mp hspans
      obtain ⟨hopen, hclosed⟩ := closeCaptures_stop_le span.start hcaptures hrun
      apply ih hspans
      · exact List.forall_mem_cons.mpr ⟨hstop, hopen⟩
      · exact coverTo_stop_le hclosed hstart _

/-! ## Matches -/

/-- Spans of a match follow one another if each lies inside those of a smaller index or apart from
them. -/
theorem Match.pairwise_follows (hsorted : rules.Pairwise (·.index ≤ ·.index))
    (hnested : ∀ outer ∈ found.spans rules, ∀ inner ∈ found.spans rules,
      outer.index < inner.index → inner.Within outer ∨ inner.Apart outer)
    (hordered : ordered → ∀ first ∈ found.spans rules, ∀ second ∈ found.spans rules,
      first.index < second.index → second.Apart first → first.stop ≤ second.start) :
    (found.spans rules).Pairwise (GroupSpan.Follows ordered) := by
  apply (found.pairwise_spans hsorted).imp_of_mem
  intro first second hfirst hsecond hle
  rcases Nat.eq_or_lt_of_le hle with heq | hlt
  · -- Two rules of one index give scopes to the same group.
    have hgroup := (mem_spans hfirst).1
    rw [heq, (mem_spans hsecond).1] at hgroup
    obtain ⟨hstart, hstop⟩ := Prod.mk.inj (Option.some.inj hgroup)
    exact Or.inl ⟨Nat.le_of_eq hstart.symm, Nat.le_of_eq hstop⟩
  · rcases hnested first hfirst second hsecond hlt with hwithin | hapart
    · exact Or.inl hwithin
    · by_cases hin : ordered
      · exact Or.inr (Or.inl (hordered hin first hfirst second hsecond hlt hapart))
      · rcases hapart with hbefore | hbehind
        · exact Or.inr (Or.inr ⟨hin, hbefore⟩)
        · exact Or.inr (Or.inl hbehind)

/-- Captures nest by position. If each numbered group that is not empty lies inside the match, and
inside the groups of a smaller index or apart from them, then the tokens of the match lie end to end
over it, and each carries the scopes of the match, of its group zero, and of some captures that
enclose it, in the order of their index. If moreover groups that lie apart come in the order of their
index, these are all captures that enclose it. -/
theorem coverMatch_nests (base : List String) (hmatch : found.start ≤ found.stop.offset)
    (hsorted : rules.Pairwise (·.index ≤ ·.index))
    (hinside : ∀ span ∈ found.spans rules,
      found.start ≤ span.start ∧ span.start ≤ span.stop ∧ span.stop ≤ found.stop.offset)
    (hnested : ∀ outer ∈ found.spans rules, ∀ inner ∈ found.spans rules,
      outer.index < inner.index → inner.Within outer ∨ inner.Apart outer)
    (hrun : run.stop = found.start) :
    let covered := coverMatch found base rules run
    let whole := base ++ (rules.filter (·.index == 0)).flatMap (·.scopes)
    ∃ emitted, covered.tokens = run.tokens ++ emitted ∧ covered.stop = found.stop.offset ∧
      Tiles found.start emitted found.stop.offset ∧
      ∀ token ∈ emitted, token.start < token.stop ∧ token.merged = false ∧
        ∃ chosen, chosen.Sublist ((found.spans rules).filter (·.Encloses token)) ∧
          token.scopes = whole ++ chosen.flatMap (·.scopes) ∧
          ((∀ first ∈ found.spans rules, ∀ second ∈ found.spans rules,
              first.index < second.index → second.Apart first → first.stop ≤ second.start) →
            chosen = (found.spans rules).filter (·.Encloses token)) := by
  let ordered := ∀ first ∈ found.spans rules, ∀ second ∈ found.spans rules,
    first.index < second.index → second.Apart first → first.stop ≤ second.start
  dsimp only
  rw [coverMatch, coverCaptures_eq, ← Match.spans]
  generalize base ++ (rules.filter (·.index == 0)).flatMap (·.scopes) = whole
  have hstart : Stacked ordered whole [] run.stop [] := fun _ span hmem => by cases hmem
  have hpos : ∀ span ∈ found.spans rules, span.start < span.stop := fun span hmem =>
    Nat.lt_of_le_of_ne (hinside span hmem).2.1 (Match.mem_spans hmem).2
  have hfollows : ([] ++ found.spans rules).Pairwise (GroupSpan.Follows ordered) :=
    Match.pairwise_follows hsorted hnested fun hordered => hordered
  have huncut : ∀ span ∈ found.spans rules, Uncut ordered run.stop span := fun span hmem =>
    Or.inl (hrun ▸ (hinside span hmem).1)
  obtain ⟨hlast, hcontinues⟩ := coverSpans_continues hstart hpos hfollows huncut
  have hbound : (coverSpans whole (found.spans rules) [] run).stop ≤ found.stop.offset := by
    apply coverSpans_stop_le
    · intro span hmem
      obtain ⟨-, hle, hstop⟩ := hinside span hmem
      exact ⟨Nat.le_trans hle hstop, hstop⟩
    · exact fun capture hmem => absurd hmem List.not_mem_nil
    · exact hrun ▸ hmatch
  -- Behind the last capture the scopes of the match stand alone.
  have hrest : Continues (Carries ordered whole (found.spans rules ++ []))
      (coverSpans whole (found.spans rules) [] run)
      ((coverSpans whole (found.spans rules) [] run).coverTo found.stop.offset whole) :=
    hlast.continues (fun capture hmem => by cases hmem) fun _ span hmem => by cases hmem
  rw [List.append_nil] at hrest
  obtain ⟨emitted, htokens, htiles, hemitted⟩ := hcontinues.trans hrest
  have hstop := coverTo_stop (coverSpans whole (found.spans rules) [] run) found.stop.offset whole
  rw [Nat.max_eq_right hbound] at hstop
  refine ⟨emitted, htokens, hstop, ?_, fun token hmem => ?_⟩
  · rw [← hrun, ← hstop]
    exact htiles
  · obtain ⟨hlt, hmerged, hchosen⟩ := hemitted token hmem
    exact ⟨hlt, hmerged, hchosen⟩

/-- A match of eight bytes in which group 1 holds group 2 and group 3, which stands behind it. Group 4
is left from a part of the match in front of them, and comes too late. -/
def staleGroup : Match :=
  ⟨0, .between ['a', 'b', 'c', 'd', 'e', 'f', 'g', 'h'] [],
    [⟨4, 0, 2⟩, ⟨3, 5, 7⟩, ⟨2, 4, 5⟩, ⟨1, 3, 8⟩]⟩

/-- Scopes for the groups of the match. -/
def staleRules : List CaptureRule :=
  [⟨0, ["whole"]⟩, ⟨1, ["outer"]⟩, ⟨2, ["first"]⟩, ⟨3, ["second"]⟩, ⟨4, ["stale"]⟩]

/-- No token of the match stands under the scopes of the group that comes too late. Without that
group each token stands under those of all groups around it. -/
theorem coverMatch_nests_staleGroup :
    let all := (coverMatch staleGroup ["source"] staleRules .empty).tokens
    let inOrder := (coverMatch staleGroup ["source"] (staleRules.take 4) .empty).tokens
    (Tiles 0 all 8 ∧ ∀ token ∈ all, "stale" ∉ token.scopes) ∧
    Tiles 0 inOrder 8 ∧ ∀ token ∈ inOrder, token.scopes = ["source", "whole"] ++
      ((staleGroup.spans (staleRules.take 4)).filter (·.Encloses token)).flatMap (·.scopes) := by
  refine ⟨⟨?_, by decide⟩, ?_⟩
  · obtain ⟨emitted, htokens, -, htiles, -⟩ :=
      @coverMatch_nests staleGroup staleRules .empty ["source"] (by decide) (by decide)
        (by decide) (by decide) rfl
    rw [htokens]
    exact htiles
  · obtain ⟨emitted, htokens, -, htiles, hemitted⟩ :=
      @coverMatch_nests staleGroup (staleRules.take 4) .empty ["source"] (by decide) (by decide)
        (by decide) (by decide) rfl
    rw [htokens]
    refine ⟨htiles, fun token hmem => ?_⟩
    obtain ⟨-, -, chosen, -, hscopes, hall⟩ := hemitted token hmem
    rw [hscopes, hall (by decide)]
    rfl

end TokenConcord
