import TokenConcord.Grammar.Token

/-!
# Tokens laid end to end

A list of tokens tiles a stretch of a line when each of them starts where the one before it
stops. Tilings compose, and every byte of a tiled stretch lies in a token.
-/

namespace TokenConcord

/-- The token covers a byte of the line. -/
def ScopedToken.Covers (token : ScopedToken) (byte : Nat) : Prop :=
  token.start ≤ byte ∧ byte < token.stop

instance (token : ScopedToken) : DecidablePred token.Covers :=
  fun _ => inferInstanceAs (Decidable (_ ∧ _))

/-- The tokens lie end to end from one offset to another. -/
def Tiles : Nat → List ScopedToken → Nat → Prop
  | start, [], stop => start = stop
  | start, token :: tokens, stop =>
      token.start = start ∧ token.start ≤ token.stop ∧ Tiles token.stop tokens stop

namespace Tiles

instance decidable : ∀ start tokens stop, Decidable (Tiles start tokens stop)
  | start, [], stop => inferInstanceAs (Decidable (start = stop))
  | _, token :: tokens, stop =>
      have := decidable token.stop tokens stop
      inferInstanceAs (Decidable (_ ∧ _ ∧ _))

theorem le {start stop : Nat} {tokens : List ScopedToken} (h : Tiles start tokens stop) :
    start ≤ stop := by
  induction tokens generalizing start with
  | nil => exact Nat.le_of_eq h
  | cons token tokens ih =>
      obtain ⟨hstart, hle, hrest⟩ := h
      have hstop := ih hrest
      omega

theorem stop_eq {start stop stop' : Nat} {tokens : List ScopedToken} (h : Tiles start tokens stop)
    (h' : Tiles start tokens stop') : stop = stop' := by
  induction tokens generalizing start with
  | nil => exact Eq.trans (Eq.symm h) h'
  | cons token tokens ih => exact ih h.2.2 h'.2.2

/-- A tiling of two lists one behind the other is a tiling of each up to a common offset. -/
theorem append_iff {start stop : Nat} {first second : List ScopedToken} :
    Tiles start (first ++ second) stop ↔
      ∃ middle, Tiles start first middle ∧ Tiles middle second stop := by
  induction first generalizing start with
  | nil =>
      constructor
      · exact fun h => ⟨start, rfl, h⟩
      · rintro ⟨middle, rfl, h⟩
        exact h
  | cons token tokens ih =>
      constructor
      · rintro ⟨hstart, hle, hrest⟩
        obtain ⟨middle, hfirst, hsecond⟩ := ih.mp hrest
        exact ⟨middle, ⟨hstart, hle, hfirst⟩, hsecond⟩
      · rintro ⟨middle, ⟨hstart, hle, hfirst⟩, hsecond⟩
        exact ⟨hstart, hle, ih.mpr ⟨middle, hfirst, hsecond⟩⟩

theorem mem_bounds {start stop : Nat} {tokens : List ScopedToken} (h : Tiles start tokens stop)
    {token : ScopedToken} (hmem : token ∈ tokens) :
    start ≤ token.start ∧ token.stop ≤ stop := by
  induction tokens generalizing start with
  | nil => cases hmem
  | cons head tokens ih =>
      obtain ⟨hstart, hle, hrest⟩ := h
      rcases List.mem_cons.mp hmem with rfl | hmem
      · exact ⟨Nat.le_of_eq hstart.symm, le hrest⟩
      · have hbounds := ih hrest hmem
        omega

theorem exists_covers {start stop byte : Nat} {tokens : List ScopedToken}
    (h : Tiles start tokens stop) (hstart : start ≤ byte) (hstop : byte < stop) :
    ∃ token ∈ tokens, token.Covers byte := by
  induction tokens generalizing start with
  | nil =>
      have hempty : start = stop := h
      omega
  | cons token tokens ih =>
      obtain ⟨htoken, _, hrest⟩ := h
      by_cases hbyte : byte < token.stop
      · exact ⟨token, List.mem_cons_self, by rw [htoken]; exact hstart, hbyte⟩
      · obtain ⟨other, hmem, hcovers⟩ := ih hrest (Nat.le_of_not_lt hbyte)
        exact ⟨other, List.mem_cons_of_mem _ hmem, hcovers⟩

/-- The last of the tiled tokens stops where the tiling does. -/
theorem getLast_stop {start stop : Nat} {tokens : List ScopedToken} (h : Tiles start tokens stop)
    (hne : tokens ≠ []) : (tokens.getLast hne).stop = stop := by
  induction tokens generalizing start with
  | nil => exact absurd rfl hne
  | cons token tokens ih =>
      obtain ⟨_, _, hrest⟩ := h
      cases tokens with
      | nil => exact hrest
      | cons second tokens => exact ih hrest (List.cons_ne_nil _ _)

end Tiles

end TokenConcord
