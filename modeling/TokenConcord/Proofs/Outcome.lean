/-!
# Outcomes

When a computation that may fail succeeds, each of its parts did. Two computations are alike when
they end with the same fault or both succeed, and computations made of like parts are alike.
-/

namespace TokenConcord.Outcome

variable {ε ε' α β : Type}

theorem bind_ok_iff {x : Except ε α} {f : α → Except ε β} {b : β} :
    x >>= f = .ok b ↔ ∃ a, x = .ok a ∧ f a = .ok b := by
  cases x with
  | error fault => exact iff_of_false (fun h => by cases h) fun ⟨_, h, _⟩ => by cases h
  | ok a => exact ⟨fun h => ⟨a, rfl, h⟩, fun ⟨_, h, hf⟩ => by cases h; exact hf⟩

theorem bind_error_iff {x : Except ε α} {f : α → Except ε β} {fault : ε} :
    x >>= f = .error fault ↔ x = .error fault ∨ ∃ a, x = .ok a ∧ f a = .error fault := by
  cases x with
  | error other =>
      refine ⟨fun h => Or.inl (congrArg Except.error (Except.error.inj h)), ?_⟩
      rintro (h | ⟨_, h, _⟩)
      · exact congrArg Except.error (Except.error.inj h)
      · cases h
  | ok a =>
      refine ⟨fun h => Or.inr ⟨a, rfl, h⟩, ?_⟩
      rintro (h | ⟨_, h, hf⟩)
      · cases h
      · cases h
        exact hf

theorem pure_ok_iff {a b : α} : (pure a : Except ε α) = .ok b ↔ a = b :=
  ⟨fun h => Except.ok.inj h, fun h => congrArg Except.ok h⟩

theorem pure_ne_error {a : α} {fault : ε} : (pure a : Except ε α) ≠ .error fault :=
  fun h => by cases h

theorem map_ok_iff {x : Except ε α} {f : α → β} {b : β} :
    x.map f = .ok b ↔ ∃ a, x = .ok a ∧ f a = b := by
  cases x with
  | error fault => exact iff_of_false (fun h => by cases h) fun ⟨_, h, _⟩ => by cases h
  | ok a => exact ⟨fun h => ⟨a, rfl, Except.ok.inj h⟩, fun ⟨_, h, hf⟩ => by cases h; rw [← hf]; rfl⟩

theorem map_error_iff {x : Except ε α} {f : α → β} {fault : ε} :
    x.map f = .error fault ↔ x = .error fault := by
  cases x with
  | error other =>
      exact ⟨fun h => congrArg Except.error (Except.error.inj h), fun h => by cases h; rfl⟩
  | ok a => exact iff_of_false (fun h => by cases h) fun h => by cases h

theorem mapError_ok_iff {x : Except ε α} {f : ε → ε'} {a : α} :
    x.mapError f = .ok a ↔ x = .ok a := by
  cases x with
  | error fault => exact iff_of_false (fun h => by cases h) fun h => by cases h
  | ok b => exact ⟨fun h => congrArg Except.ok (Except.ok.inj h), fun h => by rw [h]; rfl⟩

/-- Steps one after another fail at one of them, and those in front of it succeed. -/
theorem foldlM_error_iff {step : β → α → Except ε β} {start : β} {inputs : List α} {fault : ε} :
    inputs.foldlM step start = .error fault ↔ ∃ before a after b, inputs = before ++ a :: after ∧
      before.foldlM step start = .ok b ∧ step b a = .error fault := by
  constructor
  · intro h
    induction inputs generalizing start with
    | nil => cases h
    | cons a inputs ih =>
        rw [List.foldlM_cons] at h
        rcases bind_error_iff.mp h with ha | ⟨b, ha, h⟩
        · exact ⟨[], a, inputs, start, rfl, rfl, ha⟩
        · obtain ⟨before, last, after, c, rfl, hbefore, hlast⟩ := ih h
          refine ⟨a :: before, last, after, c, rfl, ?_, hlast⟩
          rw [List.foldlM_cons, ha]
          exact hbefore
  · rintro ⟨before, a, after, b, rfl, hbefore, ha⟩
    rw [List.foldlM_append]
    refine bind_error_iff.mpr (Or.inr ⟨b, hbefore, ?_⟩)
    rw [List.foldlM_cons]
    exact bind_error_iff.mpr (Or.inl ha)

/-! ## First defects -/

/-- The computation succeeds if there are no defects, and otherwise ends with the first of them. -/
def Reports (x : Except ε α) (defects : List ε) : Prop :=
  match x with
  | .ok _ => defects = []
  | .error fault => defects.head? = some fault

namespace Reports

variable {x : Except ε α} {defects later : List ε}

theorem bind {f : α → Except ε β} (h : Reports x defects)
    (hnext : ∀ a, x = .ok a → Reports (f a) later) : Reports (x >>= f) (defects ++ later) := by
  cases x with
  | error fault =>
      change (defects ++ later).head? = some fault
      rw [List.head?_append, h]
      rfl
  | ok a =>
      obtain rfl : defects = [] := h
      exact hnext a rfl

theorem map {f : α → β} (h : Reports x defects) : Reports (x >>= fun a => pure (f a)) defects := by
  cases x <;> exact h

theorem mapM {inputs : List α} {f : α → Except ε β} {defects : α → List ε}
    (h : ∀ a, Reports (f a) (defects a)) : Reports (inputs.mapM f) (inputs.flatMap defects) := by
  induction inputs with
  | nil => rfl
  | cons a inputs ih =>
      rw [List.mapM_cons, List.flatMap_cons]
      exact (h a).bind fun _ _ => ih.map

theorem isOk_iff (h : Reports x defects) : (∃ a, x = .ok a) ↔ defects = [] := by
  cases x with
  | error fault =>
      refine iff_of_false (fun ⟨_, heq⟩ => by cases heq) fun hnil => ?_
      rw [Reports, hnil] at h
      cases h
  | ok a => exact iff_of_true ⟨a, rfl⟩ h

theorem error_iff (h : Reports x defects) {fault : ε} :
    x = .error fault ↔ defects.head? = some fault := by
  cases x with
  | error other =>
      change defects.head? = some other at h
      rw [h]
      exact ⟨fun heq => congrArg some (Except.error.inj heq),
        fun heq => congrArg Except.error (Option.some.inj heq)⟩
  | ok a =>
      obtain rfl : defects = [] := h
      exact iff_of_false (fun heq => by cases heq) fun heq => by cases heq

end Reports

/-! ## Computations side by side -/

/-- Both computations end with the same fault, or both succeed with results that are related. -/
inductive Alike (related : α → β → Prop) : Except ε α → Except ε β → Prop
  | error (fault : ε) : Alike related (.error fault) (.error fault)
  | ok {a : α} {b : β} : related a b → Alike related (.ok a) (.ok b)

namespace Alike

variable {α' β' : Type} {related : α → β → Prop} {related' : α' → β' → Prop}
  {x : Except ε α} {y : Except ε β}

theorem refl {related : α → α → Prop} (h : ∀ a, related a a) (x : Except ε α) :
    Alike related x x := by
  cases x with
  | error fault => exact .error fault
  | ok a => exact .ok (h a)

theorem isOk_eq (h : Alike related x y) : x.isOk = y.isOk := by
  cases h <;> rfl

/-- Where one of them succeeds, so does the other, with a related result. -/
theorem exists_ok (h : Alike related x y) (hok : y.isOk = true) :
    ∃ a b, x = .ok a ∧ y = .ok b ∧ related a b := by
  cases h with
  | error fault => cases hok
  | ok hab => exact ⟨_, _, rfl, rfl, hab⟩

theorem bind {f : α → Except ε α'} {g : β → Except ε β'} (h : Alike related x y)
    (hnext : ∀ a b, related a b → Alike related' (f a) (g b)) :
    Alike related' (x >>= f) (y >>= g) := by
  cases h with
  | error fault => exact .error fault
  | ok hab => exact hnext _ _ hab

theorem mapError (h : Alike related x y) (f : ε → ε') :
    Alike related (x.mapError f) (y.mapError f) := by
  cases h with
  | error fault => exact .error (f fault)
  | ok hab => exact .ok hab

theorem mono {weaker : α → β → Prop} (h : Alike related x y)
    (hweaker : ∀ a b, related a b → weaker a b) : Alike weaker x y := by
  cases h with
  | error fault => exact .error fault
  | ok hab => exact .ok (hweaker _ _ hab)

/-- Related results are those of the two computations. -/
theorem attach (h : Alike related x y) :
    Alike (fun a b => x = .ok a ∧ y = .ok b ∧ related a b) x y := by
  cases h with
  | error fault => exact .error fault
  | ok hab => exact .ok ⟨rfl, rfl, hab⟩

end Alike

end TokenConcord.Outcome
