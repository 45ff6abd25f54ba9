import TokenConcord.Proofs.Lexing.Reading
import TokenConcord.Proofs.Outcome
import TokenConcord.Proofs.Text.Cuts

/-!
# How a document grows

A document is made of lines appended to the empty one. Its history keeps apart the tokens that
each line added.
-/

namespace TokenConcord.Lexing

/-- A place in a list with one more element is the last one or a place in the list. -/
theorem concat_eq_append_cons {α : Type} {xs front behind : List α} {x last : α}
    (h : xs ++ [last] = front ++ x :: behind) :
    (behind = [] ∧ x = last ∧ front = xs) ∨
      ∃ inner, behind = inner ++ [last] ∧ xs = front ++ x :: inner := by
  rcases List.eq_nil_or_concat' behind with rfl | ⟨inner, other, rfl⟩
  · obtain ⟨rfl, hlast⟩ := List.append_inj' h rfl
    exact Or.inl ⟨rfl, (List.cons.inj hlast).1.symm, rfl⟩
  · rw [← List.cons_append, ← List.append_assoc] at h
    obtain ⟨hxs, hlast⟩ := List.append_inj' h rfl
    rw [(List.cons.inj hlast).1]
    exact Or.inr ⟨inner, rfl, hxs⟩

namespace Document

variable {document later : Document} {line : Text} {lines : List Text}
  {groups : List (List Token)}

/-- One more line is lexed in the mode that the document is left in, and its tokens go behind
those of the document. -/
theorem append_ok_iff :
    document.append line = .ok later ↔
      ∃ lexed, LineReading line.dropReturn document.mode lexed ∧
        later = ⟨document.tokens ++ lexed.tokens.map (·.shift document.nextStart), lexed.mode,
          document.lines + 1, document.nextStart + line.width + 1⟩ := by
  unfold append
  constructor
  · intro h
    obtain ⟨lexed, hlex, heq⟩ := Outcome.bind_ok_iff.mp h
    cases heq
    exact ⟨lexed, lexLine_ok_iff.mp hlex, rfl⟩
  · rintro ⟨lexed, hread, rfl⟩
    rw [lexLine_ok_iff.mpr hread]
    rfl

theorem appendAll_cons_ok_iff :
    document.appendAll (line :: lines) = .ok later ↔
      ∃ next, document.append line = .ok next ∧ next.appendAll lines = .ok later := by
  rw [appendAll, List.foldlM_cons]
  cases document.append line with
  | error fault =>
      refine iff_of_false (fun h => by cases h) ?_
      rintro ⟨next, hnext, -⟩
      cases hnext
  | ok next =>
      constructor
      · intro h
        exact ⟨next, rfl, h⟩
      · rintro ⟨other, heq, h⟩
        cases heq
        exact h

/-- Each line counts. -/
theorem lines_appendAll (h : document.appendAll lines = .ok later) :
    later.lines = document.lines + lines.length := by
  induction lines generalizing document with
  | nil =>
      cases h
      rfl
  | cons line lines ih =>
      obtain ⟨next, hnext, hlater⟩ := appendAll_cons_ok_iff.mp h
      obtain ⟨lexed, _, rfl⟩ := append_ok_iff.mp hnext
      rw [ih hlater, List.length_cons]
      dsimp only
      omega

/-- Lines appended to the empty document one after another, and the tokens that each added. -/
inductive History : List Text → List (List Token) → Document → Prop
  | empty : History [] [] .empty
  | append {lines : List Text} {groups : List (List Token)} {document later : Document}
      {line : Text} :
      History lines groups document → document.append line = .ok later →
        History (lines ++ [line]) (groups ++ [later.tokensSince document.tokenCount]) later

/-- Lines appended behind a history go on with it. -/
theorem History.appendAll (h : History lines groups document) {more : List Text}
    (hmore : document.appendAll more = .ok later) :
    ∃ added, History (lines ++ more) (groups ++ added) later := by
  induction more generalizing lines groups document with
  | nil =>
      cases hmore
      refine ⟨[], ?_⟩
      rwa [List.append_nil, List.append_nil]
  | cons line more ih =>
      obtain ⟨next, hnext, hlater⟩ := appendAll_cons_ok_iff.mp hmore
      obtain ⟨added, hadded⟩ := ih (h.append hnext) hlater
      rw [List.append_assoc, List.append_assoc] at hadded
      exact ⟨_ :: added, hadded⟩

theorem exists_history {text : Text} (h : ofText text = .ok document) :
    ∃ groups, History text.splitLines groups document := by
  obtain ⟨added, hadded⟩ := History.empty.appendAll h
  exact ⟨added, hadded⟩

@[simp] theorem tokensSince_tokenCount (document : Document) (added : List Token) (mode : Mode)
    (lines nextStart : Nat) :
    (Document.mk (document.tokens ++ added) mode lines nextStart).tokensSince document.tokenCount =
      added :=
  List.drop_left

/-- The tokens of a document are those that its lines added, in order. -/
theorem History.flatten_eq (h : History lines groups document) :
    groups.flatten = document.tokens := by
  induction h with
  | empty => rfl
  | append _ happend ih =>
      obtain ⟨lexed, _, rfl⟩ := append_ok_iff.mp happend
      rw [tokensSince_tokenCount, List.flatten_append, ih, List.flatten_singleton]

theorem History.length_eq (h : History lines groups document) :
    groups.length = lines.length := by
  induction h with
  | empty => rfl
  | append _ _ ih => rw [List.length_append, List.length_append, ih]; rfl

/-! ## The lines before -/

theorem History.appendAll_eq (h : History lines groups document) :
    Document.empty.appendAll lines = .ok document := by
  induction h with
  | empty => rfl
  | @append _ _ document later line _ happend ih =>
      rw [Document.appendAll] at ih ⊢
      rw [List.foldlM_append, ih]
      change document.appendAll [line] = .ok later
      exact appendAll_cons_ok_iff.mpr ⟨later, happend, rfl⟩

/-- The next line starts behind the lines so far. -/
theorem History.nextStart_eq (h : History lines groups document) :
    document.nextStart = (Text.unlines lines).width := by
  induction h with
  | empty => rfl
  | append _ happend ih =>
      obtain ⟨lexed, _, rfl⟩ := append_ok_iff.mp happend
      rw [Text.unlines_append, Text.width_append, ← ih, Text.unlines, Text.width_append,
        Text.width_cons, ← Nat.add_assoc]
      rfl

theorem History.lines_eq (h : History lines groups document) : document.lines = lines.length := by
  rw [lines_appendAll h.appendAll_eq]
  exact Nat.zero_add _

/-- A history can be stopped in front of any of its lines. -/
theorem History.split {before after : List Text}
    (h : History (before ++ line :: after) groups document) :
    ∃ earlierGroups earlier next laterGroups, History before earlierGroups earlier ∧
      earlier.append line = .ok next ∧
      groups = earlierGroups ++ next.tokensSince earlier.tokenCount :: laterGroups := by
  generalize hlines : before ++ line :: after = lines at h
  induction h generalizing after with
  | empty => cases before <;> cases hlines
  | append hhistory happend ih =>
      rcases concat_eq_append_cons hlines.symm with ⟨_, rfl, rfl⟩ | ⟨inner, _, hinner⟩
      · exact ⟨_, _, _, [], hhistory, happend, rfl⟩
      · obtain ⟨earlierGroups, earlier, next, laterGroups, hearlier, hnext, rfl⟩ := ih hinner.symm
        exact ⟨earlierGroups, earlier, next, _, hearlier, hnext, List.append_assoc ..⟩

end Document

end TokenConcord.Lexing
