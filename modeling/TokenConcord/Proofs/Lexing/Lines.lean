import TokenConcord.Proofs.Text.Cuts

/-!
# Texts of one line

Splitting leaves a text without line feeds in one piece, and only a carriage return at its end
is dropped.
-/

namespace TokenConcord

theorem Text.mem_of_mem_dropReturn {c : Char} {text : Text} (h : c ∈ text.dropReturn) :
    c ∈ text := by
  fun_induction Text.dropReturn text with
  | case1 => exact h
  | case2 => cases h
  | case3 d text _ ih =>
      rcases List.mem_cons.mp h with rfl | h
      · exact List.mem_cons_self
      · exact List.mem_cons_of_mem _ (ih h)

/-- What is dropped at the end of a text is a carriage return, if anything. -/
theorem Text.exists_append_dropReturn (text : Text) :
    ∃ tail, text = text.dropReturn ++ tail ∧ ∀ c ∈ tail, c = '\r' := by
  fun_induction Text.dropReturn text with
  | case1 => exact ⟨[], rfl, fun c hc => by cases hc⟩
  | case2 => exact ⟨['\r'], rfl, fun c hc => List.mem_singleton.mp hc⟩
  | case3 c text _ ih =>
      obtain ⟨tail, htext, htail⟩ := ih
      exact ⟨tail, congrArg (c :: ·) htext, htail⟩

theorem Text.dropReturn_of_not_mem {text : Text} (h : '\r' ∉ text) : text.dropReturn = text := by
  obtain ⟨tail, htext, htail⟩ := text.exists_append_dropReturn
  cases tail with
  | nil => rw [List.append_nil] at htext; exact htext.symm
  | cons c tail =>
      have hc : c = '\r' := htail c List.mem_cons_self
      exact absurd (htext ▸ List.mem_append_right _ (hc ▸ List.mem_cons_self)) h

theorem Text.dropReturn_append_return (text : Text) : (text ++ ['\r']).dropReturn = text := by
  induction text with
  | nil => rfl
  | cons c text ih => cases text <;> rw [List.cons_append, Text.dropReturn, ih] <;> simp

namespace Lexing

variable {text : Text}

/-- The text has no line feed and no carriage return at its end. -/
def IsLine (text : Text) : Prop := '\n' ∉ text ∧ text.getLast? ≠ some '\r'

instance : DecidablePred IsLine := fun _ => inferInstanceAs (Decidable (_ ∧ _))

theorem IsLine.append {more : Text} (h : IsLine text) (hmore : IsLine more) :
    IsLine (text ++ more) := by
  refine ⟨fun hmem => (List.mem_append.mp hmem).elim h.1 hmore.1, ?_⟩
  rw [List.getLast?_append]
  cases hlast : more.getLast? with
  | none => exact h.2
  | some c =>
      rw [Option.some_or, ← hlast]
      exact hmore.2

/-- A text of characters among which there is no end of a line. -/
theorem isLine_of_forall {test : Char → Bool} (h : ∀ c ∈ text, test c = true)
    (htest : test '\n' = false ∧ test '\r' = false) : IsLine text := by
  constructor
  · intro hmem
    rw [h _ hmem] at htest
    cases htest.1
  · intro hlast
    rw [h _ (List.mem_of_getLast? hlast)] at htest
    cases htest.2

theorem isLine_quoted {opener content : Text} (hopener : '\n' ∉ opener)
    (h : '\n' ∉ content) : IsLine (opener ++ (content ++ ['"'])) := by
  rw [← List.append_assoc]
  refine ⟨?_, by simp⟩
  simp only [List.mem_append, List.mem_singleton, not_or]
  exact ⟨⟨hopener, h⟩, by decide⟩

theorem IsLine.splitLines (h : IsLine text) : text.splitLines = [text] :=
  Text.splitLines_of_not_mem h.1

theorem IsLine.dropReturn (h : IsLine text) : text.dropReturn = text := by
  have hreturn := h.2
  clear h
  fun_induction Text.dropReturn text with
  | case1 => rfl
  | case2 => exact absurd rfl hreturn
  | case3 c text hne ih =>
      cases text with
      | nil => rfl
      | cons d text =>
          rw [List.getLast?_cons_cons] at hreturn
          rw [ih hreturn]

end Lexing

end TokenConcord
