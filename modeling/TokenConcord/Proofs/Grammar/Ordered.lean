import Mathlib.Data.String.Basic
import TokenConcord.Grammar.Decode
import TokenConcord.Proofs.Grammar.WellFormed

/-!
# Order of the repository

An artifact that is read from a text has its repository ordered by name. Names are compared by their
code points, which is to compare their bytes.
-/

namespace TokenConcord

/-- The repository is ordered by name, and no name comes twice. -/
def Artifact.Ordered (artifact : Artifact) : Prop := artifact.names.Pairwise (· < ·)

/-- In an ordered repository a name comes behind all smaller ones. -/
theorem Artifact.Ordered.length_smaller {artifact : Artifact} (h : artifact.Ordered) {index : Nat}
    {name : String} (hname : artifact.names[index]? = some name) :
    (artifact.names.filter (· < name)).length = index := by
  obtain ⟨hindex, hget⟩ := List.getElem?_eq_some_iff.mp hname
  have hsplit : artifact.names =
      artifact.names.take index ++ name :: artifact.names.drop (index + 1) := by
    rw [← hget, List.getElem_cons_drop, List.take_append_drop]
  rw [Ordered, hsplit, List.pairwise_append] at h
  obtain ⟨-, hlater, hbefore⟩ := h
  have hsmaller : ∀ other ∈ artifact.names.take index, other < name :=
    fun other hmem => hbefore other hmem name List.mem_cons_self
  have hgreater : ∀ other ∈ name :: artifact.names.drop (index + 1), ¬ other < name := by
    refine List.forall_mem_cons.mpr ⟨lt_irrefl name, fun other hmem => ?_⟩
    exact lt_asymm (List.rel_of_pairwise_cons hlater hmem)
  rw [hsplit, List.filter_append, List.filter_eq_self.mpr (by simpa using hsmaller),
    List.filter_eq_nil_iff.mpr (by simpa using hgreater), List.append_nil, List.length_take]
  omega

namespace Decoding

/-! ## Steps -/

variable {α β : Type}

/-- Whatever the step reads has a property. -/
def Yields (step : Decoding α) (property : α → Prop) : Prop :=
  ∀ left value rest, step.run left = some (value, rest) → property value

theorem yields_pure {property : α → Prop} {value : α} (h : property value) :
    Yields (pure value) property := by
  intro left other rest hrun
  cases hrun
  exact h

theorem Yields.bind {step : Decoding α} {next : α → Decoding β} {first : α → Prop}
    {second : β → Prop} (h : step.Yields first)
    (hnext : ∀ value, first value → (next value).Yields second) :
    (step >>= next).Yields second := by
  intro left value rest hrun
  rw [StateT.run_bind, Option.bind_eq_bind, Option.bind_eq_some_iff] at hrun
  obtain ⟨⟨middle, between⟩, hfirst, hsecond⟩ := hrun
  exact hnext middle (h _ _ _ hfirst) _ _ _ hsecond

theorem yields_bind {step : Decoding α} {next : α → Decoding β} {property : β → Prop}
    (hnext : ∀ value, (next value).Yields property) : (step >>= next).Yields property :=
  Yields.bind (fun _ _ _ _ => trivial) fun value (_ : True) => hnext value

theorem yields_foldlM {property : β → Prop} {next : β → α → Decoding β} {items : List α}
    {initial : β} (hinitial : property initial)
    (hnext : ∀ found item, property found → (next found item).Yields property) :
    (items.foldlM next initial).Yields property := by
  induction items generalizing initial with
  | nil => exact yields_pure hinitial
  | cons item items ih =>
      rw [List.foldlM_cons]
      exact (hnext initial item hinitial).bind fun _ => ih

/-! ## Mappings -/

/-- The entries are ordered by their key, and no key comes twice. -/
def Ordered (entries : List (String × α)) : Prop := (entries.map (·.1)).Pairwise (· < ·)

theorem mem_insertEntry {key other : String} {value : α} {entries : List (String × α)}
    (h : other ∈ (insertEntry key value entries).map (·.1)) :
    other = key ∨ other ∈ entries.map (·.1) := by
  induction entries with
  | nil => exact Or.inl (List.mem_singleton.mp h)
  | cons entry entries ih =>
      obtain ⟨first, old⟩ := entry
      simp only [List.map_cons, List.mem_cons]
      unfold insertEntry at h
      split at h
      next heq =>
        simp only [List.map_cons, List.mem_cons] at h
        exact h.imp id Or.inr
      next =>
        split at h
        next =>
          simp only [List.map_cons, List.mem_cons] at h
          exact h
        next =>
          simp only [List.map_cons, List.mem_cons] at h
          rcases h with rfl | h
          · exact Or.inr (Or.inl rfl)
          · exact (ih h).imp id Or.inr

theorem insertEntry_ordered {key : String} {value : α} {entries : List (String × α)}
    (h : Ordered entries) : Ordered (insertEntry key value entries) := by
  unfold Ordered at h ⊢
  induction entries with
  | nil => exact List.pairwise_singleton _ _
  | cons entry entries ih =>
      obtain ⟨first, old⟩ := entry
      obtain ⟨hfirst, hlater⟩ := List.pairwise_cons.mp h
      unfold insertEntry
      split
      next heq =>
        rw [heq]
        exact h
      next hne =>
        split
        next hlt =>
          refine List.pairwise_cons.mpr ⟨List.forall_mem_cons.mpr ⟨hlt, fun other hmem => ?_⟩, h⟩
          exact lt_trans hlt (hfirst other hmem)
        next hnlt =>
          refine List.pairwise_cons.mpr ⟨fun other hmem => ?_, ih hlater⟩
          rcases mem_insertEntry hmem with rfl | hmem
          · exact lt_of_le_of_ne (not_lt.mp hnlt) (Ne.symm hne)
          · exact hfirst other hmem

theorem keyed_ordered {document : Yaml.Document} {levels : Nat} {key : Yaml.Node → Decoding String}
    {value : Yaml.Node → Decoding α} {node : Yaml.Node} :
    (keyed document levels key value node).Yields Ordered := by
  unfold keyed
  refine yields_bind fun entries => yields_foldlM List.Pairwise.nil fun found entry hfound => ?_
  refine yields_bind fun name => yields_bind fun item => ?_
  exact yields_pure (insertEntry_ordered hfound)

theorem artifact_ordered {document : Yaml.Document} {node : Yaml.Node} :
    (artifact document node).Yields Artifact.Ordered := by
  unfold artifact
  refine yields_bind fun fields => yields_bind fun name => yields_bind fun _ =>
    yields_bind fun scopeName => yields_bind fun types => yields_bind fun patterns =>
    yields_bind fun fileTypes => yields_bind fun rules => ?_
  -- The repository is read last, and is empty where the field is missing.
  have hrepository : (field fields "repository" []
      (keyed document (maxDepth - 1) (text document) (rule document (maxDepth - 1 - 1)))).Yields
      Ordered := by
    unfold field
    split
    next => exact yields_pure List.Pairwise.nil
    next => exact keyed_ordered
  exact hrepository.bind fun repository hordered => yields_pure hordered

end Decoding

/-- The repository of an artifact that is read from a text is ordered. -/
theorem Artifact.ofText_ordered {text : Text} {artifact : Artifact}
    (h : Artifact.ofText text = .ok artifact) : artifact.Ordered := by
  unfold Artifact.ofText at h
  dsimp only at h
  split at h
  next other hread =>
    cases h
    rw [Option.bind_eq_bind, Option.bind_eq_some_iff] at hread
    obtain ⟨document, -, hread⟩ := hread
    obtain ⟨⟨_, left⟩, hrun, rfl⟩ := Option.map_eq_some_iff.mp hread
    exact Decoding.artifact_ordered _ _ _ hrun
  next => cases h

end TokenConcord
