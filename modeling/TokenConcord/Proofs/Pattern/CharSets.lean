import Mathlib.Data.List.Chain
import TokenConcord.Pattern.CharSet

/-!
# Members of combined sets

Combining two sets in one sweep decides membership in both at once: a code point belongs to
the outcome as its membership in the two sets says. This needs the changes of both sets to
ascend, which single sets, tables of runs and all combinations of such sets satisfy.
-/

namespace TokenConcord.CharSet

/-- The changes of the set are in order, and none is listed twice. -/
def Ascending (s : CharSet) : Prop := s.changes.Pairwise (· < ·)

/-! ## Sweeps -/

theorem holdsFrom_of_lt {inside : Bool} {changes : List Nat} {n : Nat}
    (h : ∀ change ∈ changes, n < change) : holdsFrom inside changes n = inside := by
  cases changes with
  | nil => rfl
  | cons change changes => rw [holdsFrom, if_pos (h change List.mem_cons_self)]

theorem mem_turn {before after : Bool} {point x : Nat} {changes : List Nat}
    (h : x ∈ turn before after point changes) : x = point ∨ x ∈ changes := by
  unfold turn at h
  split at h
  · exact Or.inr h
  · exact List.mem_cons.mp h

theorem pairwise_turn {before after : Bool} {point : Nat} {changes : List Nat}
    (hpoint : ∀ x ∈ changes, point < x) (h : changes.Pairwise (· < ·)) :
    (turn before after point changes).Pairwise (· < ·) := by
  unfold turn
  split
  · exact h
  · exact List.pairwise_cons.mpr ⟨hpoint, h⟩

/-- A change at a point in front of others turns membership from there on, and leaves it as it
was before. -/
theorem holdsFrom_turn {before after : Bool} {point : Nat} {changes : List Nat}
    (hpoint : ∀ x ∈ changes, point < x) (n : Nat) :
    holdsFrom before (turn before after point changes) n =
      if n < point then before else holdsFrom after changes n := by
  unfold turn
  by_cases hsame : before = after
  · subst hsame
    rw [if_pos rfl]
    split
    next hlt => exact holdsFrom_of_lt fun x hx => Nat.lt_trans hlt (hpoint x hx)
    · rfl
  · have hafter : after = !before := by
      cases before <;> cases after <;> simp_all
    rw [if_neg hsame, holdsFrom, hafter]

/-- No change comes before the point. Behind it membership is as the second value says, and the
second list has the changes that are left. -/
inductive Passes (point : Nat) : Bool → List Nat → Bool → List Nat → Prop
  | turns {inside : Bool} {changes : List Nat} : (∀ x ∈ changes, point < x) →
      Passes point inside (point :: changes) (!inside) changes
  | stays {inside : Bool} {changes : List Nat} : (∀ x ∈ changes, point < x) →
      Passes point inside changes inside changes

namespace Passes

variable {point : Nat} {inside inside' : Bool} {changes changes' : List Nat}

theorem lt (h : Passes point inside changes inside' changes') : ∀ x ∈ changes', point < x := by
  cases h with
  | turns hpoint => exact hpoint
  | stays hpoint => exact hpoint

theorem mem (h : Passes point inside changes inside' changes') {x : Nat} (hx : x ∈ changes') :
    x ∈ changes := by
  cases h with
  | turns => exact List.mem_cons_of_mem _ hx
  | stays => exact hx

theorem holdsFrom (h : Passes point inside changes inside' changes') (n : Nat) :
    holdsFrom inside changes n = if n < point then inside else holdsFrom inside' changes' n := by
  cases h with
  | turns => rfl
  | stays hpoint =>
      split
      next hlt => exact holdsFrom_of_lt fun x hx => Nat.lt_trans hlt (hpoint x hx)
      next => rfl

end Passes

variable {op : Bool → Bool → Bool}

/-- The last list has the changes of a combination of two sets, in order and all from theirs. -/
structure Combines (op : Bool → Bool → Bool) (left : Bool) (xs : List Nat) (right : Bool)
    (ys changes : List Nat) : Prop where
  ascending : changes.Pairwise (· < ·)
  listed : ∀ x ∈ changes, x ∈ xs ∨ x ∈ ys
  holds : ∀ n, holdsFrom (op left right) changes n =
    op (holdsFrom left xs n) (holdsFrom right ys n)

/-- Where both sets pass a point at which one of them changes, their combination does. -/
theorem Combines.turn {left left' right right' : Bool} {xs xs' ys ys' changes : List Nat}
    {point : Nat} (h : Combines op left' xs' right' ys' changes)
    (hxs : Passes point left xs left' xs') (hys : Passes point right ys right' ys')
    (hpoint : point ∈ xs ∨ point ∈ ys) :
    Combines op left xs right ys (turn (op left right) (op left' right') point changes) := by
  have hlt : ∀ x ∈ changes, point < x := fun x hx => (h.listed x hx).elim (hxs.lt x) (hys.lt x)
  refine ⟨pairwise_turn hlt h.ascending, fun x hx => ?_, fun n => ?_⟩
  · rcases mem_turn hx with rfl | hx
    · exact hpoint
    · exact (h.listed x hx).imp hxs.mem hys.mem
  · rw [holdsFrom_turn hlt, h.holds, hxs.holdsFrom, hys.holdsFrom]
    split <;> rfl

/-- A sweep gives the changes of the combination, one point after another. -/
theorem sweep_combines {left right : Bool} {xs ys : List Nat} (hxs : xs.Pairwise (· < ·))
    (hys : ys.Pairwise (· < ·)) : Combines op left xs right ys (sweep op left right xs ys) := by
  have hnil : ∀ point, ∀ x ∈ ([] : List Nat), point < x :=
    fun _ _ hmem => absurd hmem List.not_mem_nil
  -- What is less than the first change is less than all.
  have hall : ∀ {point first : Nat} {changes : List Nat}, (first :: changes).Pairwise (· < ·) →
      point < first → ∀ x ∈ first :: changes, point < x := fun hchanges hlt =>
    List.forall_mem_cons.mpr
      ⟨hlt, fun _ hx => Nat.lt_trans hlt (List.rel_of_pairwise_cons hchanges hx)⟩
  fun_induction sweep op left right xs ys with
  | case1 => exact ⟨.nil, fun _ hmem => absurd hmem List.not_mem_nil, fun _ => rfl⟩
  | case2 left right a xs ih =>
      obtain ⟨ha, htail⟩ := List.pairwise_cons.mp hxs
      exact (ih htail hys).turn (.turns ha) (.stays (hnil a)) (Or.inl List.mem_cons_self)
  | case3 left right b ys ih =>
      obtain ⟨hb, htail⟩ := List.pairwise_cons.mp hys
      exact (ih hxs htail).turn (.stays (hnil b)) (.turns hb) (Or.inr List.mem_cons_self)
  | case4 left right a xs b ys hlt ih =>
      obtain ⟨ha, htail⟩ := List.pairwise_cons.mp hxs
      exact (ih htail hys).turn (.turns ha) (.stays (hall hys hlt)) (Or.inl List.mem_cons_self)
  | case5 left right a xs b ys hlt hgt ih =>
      obtain ⟨hb, htail⟩ := List.pairwise_cons.mp hys
      exact (ih hxs htail).turn (.stays (hall hxs hgt)) (.turns hb) (Or.inr List.mem_cons_self)
  | case6 left right a xs b ys hlt hgt ih =>
      obtain rfl : a = b := Nat.le_antisymm (Nat.not_lt.mp hgt) (Nat.not_lt.mp hlt)
      obtain ⟨ha, hxtail⟩ := List.pairwise_cons.mp hxs
      obtain ⟨hb, hytail⟩ := List.pairwise_cons.mp hys
      exact (ih hxtail hytail).turn (.turns ha) (.turns hb) (Or.inl List.mem_cons_self)

/-! ## Unions -/

theorem ascending_union {s t : CharSet} (hs : s.Ascending) (ht : t.Ascending) :
    (s.union t).Ascending := (sweep_combines hs ht).ascending

theorem holds_union {s t : CharSet} (hs : s.Ascending) (ht : t.Ascending) (n : Nat) :
    (s.union t).holds n = (s.holds n || t.holds n) :=
  (@sweep_combines (· || ·) false false s.changes t.changes hs ht).holds n

theorem unions_spec {sets : List CharSet} (h : ∀ s ∈ sets, s.Ascending) :
    (unions sets).Ascending ∧ ∀ n, (unions sets).holds n = sets.any (·.holds n) := by
  induction sets with
  | nil => exact ⟨List.Pairwise.nil, fun n => rfl⟩
  | cons s sets ih =>
      obtain ⟨hs, hsets⟩ := List.forall_mem_cons.mp h
      obtain ⟨hunions, hholds⟩ := ih hsets
      cases sets with
      | nil => exact ⟨hs, fun n => by simp [unions]⟩
      | cons t sets =>
          refine ⟨ascending_union hs hunions, fun n => ?_⟩
          exact (holds_union hs hunions n).trans (by rw [hholds]; rfl)

/-! ## Tables of runs -/

theorem holds_ofRuns (runs : List Nat) (n : Nat) : (ofRuns runs).holds n = Unicode.covers runs n := by
  unfold ofRuns holds
  fun_induction changesOfRuns runs with
  | case1 first last runs ih =>
      simp only [holdsFrom, Unicode.covers]
      dsimp only at ih
      by_cases hfirst : n < first
      · simp [hfirst]
      · by_cases hlast : n ≤ last
        · simp [hfirst, hlast, Nat.lt_succ_of_le hlast]
        · simp [hfirst, hlast, mt Nat.lt_succ_iff.mp hlast, ih]
  | case2 runs hruns =>
      cases runs with
      | nil => rfl
      | cons first runs =>
          cases runs with
          | nil => rfl
          | cons last runs => exact absurd rfl (hruns first last runs)

theorem ofTables_spec {tables : List (List Nat)} (h : ∀ table ∈ tables, (ofRuns table).Ascending) :
    (ofTables tables).Ascending ∧ ∀ n, (ofTables tables).holds n = Unicode.coveredBy tables n := by
  obtain ⟨hascending, hholds⟩ := unions_spec (List.forall_mem_map.mpr h)
  refine ⟨hascending, fun n => (hholds n).trans ?_⟩
  simp [Unicode.coveredBy, List.any_map, holds_ofRuns, Function.comp_def]

/-- Neighbours in order are enough. -/
theorem ascending_of_isChain {s : CharSet} (h : s.changes.IsChain (· < ·)) : s.Ascending :=
  List.isChain_iff_pairwise.mp h

end TokenConcord.CharSet
