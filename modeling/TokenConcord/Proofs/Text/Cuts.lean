import TokenConcord.Text.Basic

/-!
# Cuts and lines of a text

The number of bytes in front of a piece of text is where the text is cut to get it, and the lines
of a text with line feeds between them are the text again.
-/

namespace TokenConcord.Text

theorem width_pos {text : Text} (h : text ≠ []) : 0 < text.width := by
  cases text with
  | nil => exact absurd rfl h
  | cons c text => exact Nat.add_pos_left c.utf8Size_pos _

theorem width_lt_append (front : Text) {more : Text} (h : more ≠ []) :
    front.width < (front ++ more).width := by
  rw [width_append]
  exact Nat.lt_add_of_pos_right (width_pos h)

theorem cut?_append (front rest : Text) : (front ++ rest).cut? front.width = some (front, rest) := by
  induction front with
  | nil => cases rest <;> rfl
  | cons c front ih =>
      obtain ⟨n, hn⟩ := Nat.exists_eq_add_one.mpr (Nat.add_pos_left c.utf8Size_pos (width front))
      have hle : c.utf8Size ≤ n + 1 := by omega
      have hrest : n + 1 - c.utf8Size = width front := by omega
      rw [width_cons, hn, List.cons_append, cut?, if_pos hle, hrest, ih]
      rfl

theorem slice?_append (front piece rest : Text) :
    (front ++ (piece ++ rest)).slice? front.width (front.width + piece.width) = some piece := by
  rw [slice?, if_pos (Nat.le_add_right _ _), cut?_append, Nat.add_sub_cancel_left]
  simp only [bind, Option.bind, cut?_append]
  rfl

theorem cut?_eq_some {text front rest : Text} {n : Nat} (h : text.cut? n = some (front, rest)) :
    text = front ++ rest ∧ front.width = n := by
  induction text generalizing n front with
  | nil =>
      cases n with
      | zero =>
          cases h
          exact ⟨rfl, rfl⟩
      | succ n => cases h
  | cons c text ih =>
      cases n with
      | zero =>
          cases h
          exact ⟨rfl, rfl⟩
      | succ n =>
          rw [cut?] at h
          split at h
          next hle =>
            obtain ⟨⟨inner, _⟩, hinner, heq⟩ := Option.map_eq_some_iff.mp h
            cases heq
            obtain ⟨rfl, hwidth⟩ := ih hinner
            exact ⟨rfl, by rw [width_cons, hwidth, Nat.add_sub_cancel' hle]⟩
          next => cases h

/-- The piece between two offsets is what stands there between two cuts. -/
theorem slice?_eq_some_iff {text piece : Text} {start stop : Nat} :
    text.slice? start stop = some piece ↔
      ∃ front rest, text = front ++ (piece ++ rest) ∧ front.width = start ∧
        start + piece.width = stop := by
  constructor
  · intro h
    unfold slice? at h
    split at h
    next hle =>
      obtain ⟨⟨front, after⟩, hfront, h⟩ := Option.bind_eq_some_iff.mp h
      obtain ⟨⟨inner, rest⟩, hinner, h⟩ := Option.bind_eq_some_iff.mp h
      cases h
      obtain ⟨rfl, hstart⟩ := cut?_eq_some hfront
      obtain ⟨rfl, hwidth⟩ := cut?_eq_some hinner
      exact ⟨front, rest, rfl, hstart, by rw [hwidth, Nat.add_sub_cancel' hle]⟩
    next => cases h
  · rintro ⟨front, rest, rfl, rfl, rfl⟩
    exact slice?_append front piece rest

theorem slice?_zero_eq_some_iff {text piece : Text} {stop : Nat} :
    text.slice? 0 stop = some piece ↔ ∃ rest, text = piece ++ rest ∧ piece.width = stop := by
  rw [slice?_eq_some_iff]
  constructor
  · rintro ⟨front, rest, rfl, hfront, hstop⟩
    cases front with
    | nil => exact ⟨rest, rfl, by rwa [Nat.zero_add] at hstop⟩
    | cons c front => exact absurd hfront (Nat.ne_of_gt (width_pos (List.cons_ne_nil c front)))
  · rintro ⟨rest, rfl, hstop⟩
    exact ⟨[], rest, rfl, rfl, by rw [Nat.zero_add, hstop]⟩

/-! ## Lines -/

theorem splitLines_feed (text : Text) : splitLines ('\n' :: text) = [] :: splitLines text := by
  rw [splitLines, if_pos rfl]

theorem splitLines_ne_nil (text : Text) : splitLines text ≠ [] := by
  cases text with
  | nil => exact List.cons_ne_nil _ _
  | cons c text =>
      rw [splitLines]
      split
      · exact List.cons_ne_nil _ _
      · split <;> exact List.cons_ne_nil _ _

/-- A character that is no line feed stands at the front of the first line. -/
theorem splitLines_char {c : Char} (h : c ≠ '\n') (text : Text) :
    ∃ line lines, splitLines text = line :: lines ∧
      splitLines (c :: text) = (c :: line) :: lines := by
  obtain ⟨line, lines, hlines⟩ := List.exists_cons_of_ne_nil (splitLines_ne_nil text)
  refine ⟨line, lines, hlines, ?_⟩
  rw [splitLines, if_neg h, hlines]

/-- A line feed between two texts ends the last line of the first one. -/
theorem splitLines_append_feed (text more : Text) :
    splitLines (text ++ '\n' :: more) = splitLines text ++ splitLines more := by
  induction text with
  | nil => exact splitLines_feed more
  | cons c text ih =>
      by_cases hc : c = '\n'
      · rw [hc, List.cons_append, splitLines_feed, splitLines_feed, ih, List.cons_append]
      · obtain ⟨line, lines, hline, hlines⟩ := splitLines_char hc text
        rw [hline, List.cons_append] at ih
        rw [List.cons_append, splitLines, if_neg hc, ih, hlines, List.cons_append]

/-- The last line of a text goes on with the first one of the text behind it. -/
theorem splitLines_append {text more last first : Text} {before later : List Text}
    (h : splitLines text = before ++ [last]) (hmore : splitLines more = first :: later) :
    splitLines (text ++ more) = before ++ (last ++ first) :: later := by
  induction text generalizing before last with
  | nil =>
      cases before with
      | nil =>
          obtain ⟨rfl, _⟩ := List.cons.inj h
          exact hmore
      | cons line before => simp [splitLines] at h
  | cons c text ih =>
      by_cases hc : c = '\n'
      · rw [hc, splitLines_feed] at h
        cases before with
        | nil => exact absurd (List.cons.inj h).2 (splitLines_ne_nil text)
        | cons line before =>
            obtain ⟨rfl, hlines⟩ := List.cons.inj h
            rw [hc, List.cons_append, splitLines_feed, ih hlines, List.cons_append]
      · obtain ⟨line, lines, hline, hlines⟩ := splitLines_char hc text
        rw [hlines] at h
        rw [List.cons_append, splitLines, if_neg hc]
        cases before with
        | nil =>
            obtain ⟨rfl, rfl⟩ := List.cons.inj h
            have hbehind : splitLines (text ++ more) = [] ++ (line ++ first) :: later := ih hline
            rw [hbehind]
            rfl
        | cons _ before =>
            obtain ⟨rfl, rfl⟩ := List.cons.inj h
            have hbehind : splitLines (text ++ more) =
                (line :: before) ++ (last ++ first) :: later := ih hline
            rw [hbehind]
            rfl

theorem splitLines_of_not_mem {text : Text} (h : '\n' ∉ text) : splitLines text = [text] := by
  induction text with
  | nil => rfl
  | cons c text ih =>
      obtain ⟨hc, htext⟩ := not_or.mp (mt List.mem_cons.mpr h)
      rw [splitLines, if_neg (Ne.symm hc), ih htext]

/-- A text of one line stands in front of the first line behind it. -/
theorem splitLines_append_line {text more first : Text} {later : List Text} (h : '\n' ∉ text)
    (hmore : splitLines more = first :: later) :
    splitLines (text ++ more) = (text ++ first) :: later :=
  @splitLines_append text more text first [] later (splitLines_of_not_mem h) hmore

theorem length_splitLines (text : Text) : (splitLines text).length = text.count '\n' + 1 := by
  induction text with
  | nil => rfl
  | cons c text ih =>
      by_cases hc : c = '\n'
      · rw [hc, splitLines_feed, List.length_cons, ih, List.count_cons_self]
      · obtain ⟨line, lines, hline, hlines⟩ := splitLines_char hc text
        rw [hlines, List.length_cons, List.count_cons_of_ne hc, ← ih, hline, List.length_cons]

theorem intercalate_splitLines (text : Text) : ['\n'].intercalate (splitLines text) = text := by
  induction text with
  | nil => rfl
  | cons c text ih =>
      by_cases hc : c = '\n'
      · rw [hc, splitLines_feed, List.intercalate_cons_of_ne_nil (splitLines_ne_nil text), ih]
        rfl
      · obtain ⟨line, lines, hline, hlines⟩ := splitLines_char hc text
        rw [hline] at ih
        rw [hlines]
        cases lines with
        | nil =>
            rw [List.intercalate_singleton] at ih ⊢
            rw [ih]
        | cons next lines =>
            rw [List.intercalate_cons_cons] at ih ⊢
            rw [← ih]
            rfl

/-- Lines joined by line feeds are found again. -/
theorem splitLines_intercalate {lines : List Text} (hne : lines ≠ [])
    (h : ∀ line ∈ lines, '\n' ∉ line) : splitLines (['\n'].intercalate lines) = lines := by
  induction lines with
  | nil => exact absurd rfl hne
  | cons line lines ih =>
      obtain ⟨hline, hlines⟩ := List.forall_mem_cons.mp h
      cases lines with
      | nil => rw [List.intercalate_singleton, splitLines_of_not_mem hline]
      | cons next lines =>
          rw [List.intercalate_cons_cons, List.append_assoc, List.singleton_append,
            splitLines_append_feed, splitLines_of_not_mem hline,
            ih (List.cons_ne_nil _ _) hlines, List.singleton_append]

theorem not_mem_of_mem_splitLines {text line : Text} (h : line ∈ splitLines text) :
    '\n' ∉ line := by
  induction text generalizing line with
  | nil =>
      rw [List.mem_singleton.mp h]
      exact List.not_mem_nil
  | cons c text ih =>
      by_cases hc : c = '\n'
      · rw [hc, splitLines_feed] at h
        rcases List.mem_cons.mp h with rfl | h
        · exact List.not_mem_nil
        · exact ih h
      · obtain ⟨first, lines, hfirst, hlines⟩ := splitLines_char hc text
        rw [hlines] at h
        rcases List.mem_cons.mp h with rfl | h
        · have hrest : '\n' ∉ first := ih (by rw [hfirst]; exact List.mem_cons_self)
          intro hmem
          rcases List.mem_cons.mp hmem with heq | hmem
          · exact hc heq.symm
          · exact hrest hmem
        · exact ih (by rw [hfirst]; exact List.mem_cons_of_mem _ h)

/-- The lines, each with a line feed behind it. -/
def unlines : List Text → Text
  | [] => []
  | line :: lines => line ++ '\n' :: unlines lines

theorem unlines_append (lines more : List Text) :
    unlines (lines ++ more) = unlines lines ++ unlines more := by
  induction lines with
  | nil => rfl
  | cons line lines ih =>
      rw [List.cons_append, unlines, unlines, ih, List.append_assoc, List.cons_append]

theorem unlines_splitLines (text : Text) : unlines (splitLines text) = text ++ ['\n'] := by
  induction text with
  | nil => rfl
  | cons c text ih =>
      by_cases hc : c = '\n'
      · rw [hc, splitLines_feed, unlines, ih]
        rfl
      · obtain ⟨line, lines, hline, hlines⟩ := splitLines_char hc text
        rw [hline, unlines] at ih
        rw [hlines, unlines, List.cons_append, ih, List.cons_append]

/-- In front of a line stand the lines before it. -/
theorem splitLines_eq_append {text line : Text} {before after : List Text}
    (h : splitLines text = before ++ line :: after) :
    ∃ back, text = unlines before ++ (line ++ back) := by
  rw [← intercalate_splitLines text, h]
  clear h
  induction before with
  | nil =>
      cases after with
      | nil => exact ⟨[], by simp [unlines]⟩
      | cons next after =>
          refine ⟨['\n'] ++ ['\n'].intercalate (next :: after), ?_⟩
          rw [List.nil_append, List.intercalate_cons_cons, List.append_assoc]
          rfl
  | cons first before ih =>
      obtain ⟨back, hback⟩ := ih
      refine ⟨back, ?_⟩
      rw [List.cons_append, List.intercalate_cons_of_ne_nil (by simp), hback, unlines,
        List.append_assoc, List.append_assoc]
      rfl

theorem isInfix_of_mem_splitLines {text line : Text} (h : line ∈ splitLines text) :
    line <:+: text := by
  obtain ⟨before, after, hsplit⟩ := List.append_of_mem h
  obtain ⟨back, rfl⟩ := splitLines_eq_append hsplit
  exact ⟨unlines before, back, List.append_assoc ..⟩

theorem mem_of_mem_splitLines {text line : Text} {c : Char} (h : line ∈ splitLines text)
    (hc : c ∈ line) : c ∈ text := (isInfix_of_mem_splitLines h).mem hc

end TokenConcord.Text
