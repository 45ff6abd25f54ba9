import TokenConcord.Proofs.Lexing.History

/-!
# Constructs over several lines

The kinds of a document's tokens are bracketed: the start of a construct is followed by nothing
but its content up to its end, and content and ends stand nowhere else. The mode of the document
says whether the last construct is still open. Along the lines this is kept by `Bracketing`, which
grows by one kind at a time.
-/

namespace TokenConcord.Lexing

variable {construct : Construct} {kinds front behind : List Kind} {kind last : Kind} {mode : Mode}

namespace Construct

/-- The kinds end with a start of the construct and content behind it. -/
def EndsInside (construct : Construct) (kinds : List Kind) : Prop :=
  ∃ front count, kinds = front ++ construct.startKind :: List.replicate count construct.contentKind

/-- Each start of the construct is followed by content and then by an end or by nothing, and
content and ends stand only behind a start. -/
structure Bracketed (construct : Construct) (kinds : List Kind) : Prop where
  opened : ∀ front behind, kinds = front ++ construct.startKind :: behind →
    ∃ count rest, behind = List.replicate count construct.contentKind ++ rest ∧
      ∀ kind ∈ rest.head?, kind = construct.endKind
  inside : ∀ front kind behind, kinds = front ++ kind :: behind →
    kind = construct.contentKind ∨ kind = construct.endKind → construct.EndsInside front

/-- Where the parts of the construct may stand among the kinds of one line. -/
structure Placed (construct : Construct) (kinds : List Kind) : Prop where
  /-- Content is all of its line. -/
  content : construct.contentKind ∈ kinds → kinds = [construct.contentKind]
  /-- An end stands first. -/
  close : construct.endKind ∉ kinds.tail
  /-- A start stands last. -/
  start : construct.startKind ∉ kinds.dropLast

/-! ## Parts of different constructs -/

theorem startKind_inj {other : Construct} (h : construct.startKind = other.startKind) :
    construct = other := by
  cases construct <;> cases other <;> first | rfl | cases h

theorem contentKind_inj {other : Construct} (h : construct.contentKind = other.contentKind) :
    construct = other := by
  cases construct <;> cases other <;> first | rfl | cases h

theorem endKind_inj {other : Construct} (h : construct.endKind = other.endKind) :
    construct = other := by
  cases construct <;> cases other <;> first | rfl | cases h

theorem startKind_ne_contentKind (construct other : Construct) :
    construct.startKind ≠ other.contentKind := by
  cases construct <;> cases other <;> decide

theorem startKind_ne_endKind (construct other : Construct) :
    construct.startKind ≠ other.endKind := by
  cases construct <;> cases other <;> decide

theorem contentKind_ne_endKind (construct other : Construct) :
    construct.contentKind ≠ other.endKind := by
  cases construct <;> cases other <;> decide

end Construct

/-! ## One more kind -/

theorem Construct.endsInside_concat_iff :
    construct.EndsInside (kinds ++ [last]) ↔
      last = construct.startKind ∨
        last = construct.contentKind ∧ construct.EndsInside kinds := by
  constructor
  · rintro ⟨front, count, h⟩
    rcases concat_eq_append_cons h with ⟨_, hlast, _⟩ | ⟨inner, hinner, rfl⟩
    · exact Or.inl hlast.symm
    · cases count with
      | zero => cases inner <;> cases hinner
      | succ count =>
          rw [List.replicate_succ'] at hinner
          obtain ⟨rfl, hlast⟩ := List.append_inj' hinner rfl
          exact Or.inr ⟨(List.cons.inj hlast).1.symm, front, count, rfl⟩
  · rintro (rfl | ⟨rfl, front, count, rfl⟩)
    · exact ⟨kinds, 0, rfl⟩
    · refine ⟨front, count + 1, ?_⟩
      rw [List.replicate_succ', List.append_assoc, List.cons_append]

/-- A kind goes with the ones before it when it is content or an end exactly inside. -/
theorem Construct.Bracketed.concat (h : construct.Bracketed kinds)
    (hlast : construct.EndsInside kinds ↔
      last = construct.contentKind ∨ last = construct.endKind) :
    construct.Bracketed (kinds ++ [last]) := by
  constructor
  case opened =>
    intro front behind heq
    rcases concat_eq_append_cons heq with ⟨rfl, _, _⟩ | ⟨inner, rfl, hkinds⟩
    · exact ⟨0, [], rfl, fun kind hmem => by cases hmem⟩
    · obtain ⟨count, rest, rfl, hrest⟩ := h.opened front inner hkinds
      cases rest with
      | cons kind rest => exact ⟨count, kind :: rest ++ [last], by simp, hrest⟩
      | nil =>
          -- No end has come yet, so the new kind is more content or the end.
          rw [List.append_nil] at hkinds ⊢
          rcases hlast.mp ⟨front, count, hkinds⟩ with rfl | rfl
          · refine ⟨count + 1, [], ?_, fun kind hmem => by cases hmem⟩
            rw [List.append_nil, List.replicate_succ']
          · refine ⟨count, [construct.endKind], rfl, ?_⟩
            rintro kind ⟨⟩
            rfl
  case inside =>
    intro front kind behind heq hkind
    rcases concat_eq_append_cons heq with ⟨_, rfl, rfl⟩ | ⟨inner, _, hkinds⟩
    · exact hlast.mpr hkind
    · exact h.inside front kind inner hkinds hkind

/-! ## Kinds along a document -/

/-- Kinds of tokens up to some place, with the mode there. -/
inductive Bracketing : List Kind → Mode → Prop
  | nil : Bracketing [] .default
  | whole {kinds : List Kind} {kind : Kind} :
      Bracketing kinds .default → (∀ construct : Construct, kind ∉ construct.parts) →
        Bracketing (kinds ++ [kind]) .default
  | start {construct : Construct} {kinds : List Kind} :
      Bracketing kinds .default → Bracketing (kinds ++ [construct.startKind]) (.inside construct)
  | content {construct : Construct} {kinds : List Kind} :
      Bracketing kinds (.inside construct) →
        Bracketing (kinds ++ [construct.contentKind]) (.inside construct)
  | close {construct : Construct} {kinds : List Kind} :
      Bracketing kinds (.inside construct) → Bracketing (kinds ++ [construct.endKind]) .default

namespace Bracketing

/-- The mode is the one inside a construct exactly if the kinds end there. -/
theorem mode_eq_iff (h : Bracketing kinds mode) :
    mode = .inside construct ↔ construct.EndsInside kinds := by
  induction h with
  | nil =>
      refine iff_of_false (fun heq => by cases heq) ?_
      rintro ⟨front, count, heq⟩
      cases front <;> cases heq
  | whole _ hkind _ =>
      rw [Construct.endsInside_concat_iff]
      refine iff_of_false (fun heq => by cases heq) ?_
      rintro (rfl | ⟨rfl, _⟩)
      · exact hkind construct construct.startKind_mem_parts
      · exact hkind construct construct.contentKind_mem_parts
  | @start other kinds hkinds ih =>
      rw [Construct.endsInside_concat_iff]
      constructor
      · rintro ⟨⟩
        exact Or.inl rfl
      · rintro (hstart | ⟨hcontent, _⟩)
        · rw [Construct.startKind_inj hstart]
        · exact absurd hcontent (Construct.startKind_ne_contentKind _ _)
  | @content other kinds _ ih =>
      rw [Construct.endsInside_concat_iff]
      constructor
      · rintro ⟨⟩
        exact Or.inr ⟨rfl, ih.mp rfl⟩
      · rintro (hstart | ⟨_, hinside⟩)
        · exact absurd hstart.symm (Construct.startKind_ne_contentKind _ _)
        · exact ih.mpr hinside
  | close _ _ =>
      rw [Construct.endsInside_concat_iff]
      refine iff_of_false (fun heq => by cases heq) ?_
      rintro (hstart | ⟨hcontent, _⟩)
      · exact absurd hstart.symm (Construct.startKind_ne_endKind _ _)
      · exact absurd hcontent.symm (Construct.contentKind_ne_endKind _ _)

theorem bracketed (h : Bracketing kinds mode) (construct : Construct) :
    construct.Bracketed kinds := by
  induction h with
  | nil =>
      constructor
      · intro front behind heq
        cases front <;> cases heq
      · intro front kind behind heq
        cases front <;> cases heq
  | whole hkinds hkind ih =>
      refine ih.concat ?_
      rw [← hkinds.mode_eq_iff]
      refine iff_of_false (fun heq => by cases heq) ?_
      rintro (rfl | rfl)
      · exact hkind construct construct.contentKind_mem_parts
      · exact hkind construct construct.endKind_mem_parts
  | start hkinds ih =>
      refine ih.concat ?_
      rw [← hkinds.mode_eq_iff]
      refine iff_of_false (fun heq => by cases heq) ?_
      rintro (hcontent | hend)
      · exact Construct.startKind_ne_contentKind _ _ hcontent
      · exact Construct.startKind_ne_endKind _ _ hend
  | content hkinds ih =>
      refine ih.concat ?_
      rw [← hkinds.mode_eq_iff]
      constructor
      · rintro ⟨⟩
        exact Or.inl rfl
      · rintro (hcontent | hend)
        · rw [Construct.contentKind_inj hcontent]
        · exact absurd hend (Construct.contentKind_ne_endKind _ _)
  | close hkinds ih =>
      refine ih.concat ?_
      rw [← hkinds.mode_eq_iff]
      constructor
      · rintro ⟨⟩
        exact Or.inr rfl
      · rintro (hcontent | hend)
        · exact absurd hcontent.symm (Construct.contentKind_ne_endKind _ _)
        · rw [Construct.endKind_inj hend]

/-- Whole lexemes leave the brackets as they are. -/
theorem wholes {found : List LexemeSpan} (h : Bracketing kinds .default)
    (hfound : ∀ span ∈ found, span.lexeme.Whole) :
    Bracketing (kinds ++ (tokensOf found).map (·.kind)) .default := by
  induction found generalizing kinds with
  | nil =>
      rw [tokensOf, List.map_nil, List.map_nil, List.append_nil]
      exact h
  | cons span found ih =>
      obtain ⟨hspan, hfound⟩ := List.forall_mem_cons.mp hfound
      have hnext := ih (h.whole hspan.kind) hfound
      rw [List.append_assoc] at hnext
      exact hnext

theorem code {found : List LexemeSpan} {offset : Nat} {text : Text} (h : Bracketing kinds .default)
    (hread : Reading offset text found []) :
    Bracketing (kinds ++ (tokensOf found).map (·.kind)) (modeBehind found) := by
  rcases hread.whole_or_opened with hall | ⟨construct, front, start, rfl, hfront⟩
  · rw [modeBehind_whole hall]
    exact h.wholes hall
  · have hstart := @Bracketing.start construct _ (h.wholes hfront)
    rw [modeBehind_concat, construct.modeAfter_lexeme_opened, tokensOf_append, List.map_append,
      ← List.append_assoc]
    rw [← construct.kind_lexeme_opened] at hstart
    exact hstart

/-- A line goes on with the brackets in the mode that it leaves behind. -/
theorem line {text : Text} {lexed : LexedLine} (h : Bracketing kinds mode)
    (hread : LineReading text mode lexed) :
    Bracketing (kinds ++ lexed.tokens.map (·.kind)) lexed.mode := by
  cases hread with
  | code hread => exact h.code hread
  | inside _ => exact h.content
  | closes _ hread =>
      have hcode := h.close.code hread
      rw [List.append_assoc] at hcode
      exact hcode

end Bracketing

/-! ## Kinds on a line -/

/-- The kinds of a line of code: no parts of constructs but a start at the end. -/
inductive CodeKinds : List Kind → Prop
  | wholes {kinds : List Kind} :
      (∀ kind ∈ kinds, ∀ construct : Construct, kind ∉ construct.parts) → CodeKinds kinds
  | start {construct : Construct} {kinds : List Kind} :
      (∀ kind ∈ kinds, ∀ construct : Construct, kind ∉ construct.parts) →
        CodeKinds (kinds ++ [construct.startKind])

theorem Reading.codeKinds {found : List LexemeSpan} {offset : Nat} {text : Text}
    (h : Reading offset text found []) : CodeKinds ((tokensOf found).map (·.kind)) := by
  have hkinds : ∀ spans : List LexemeSpan, (∀ span ∈ spans, span.lexeme.Whole) →
      ∀ kind ∈ (tokensOf spans).map (·.kind), ∀ construct : Construct,
        kind ∉ construct.parts := by
    intro spans hspans kind hmem
    simp only [tokensOf, List.map_map, List.mem_map, Function.comp_apply] at hmem
    obtain ⟨span, hspan, rfl⟩ := hmem
    exact (hspans span hspan).kind
  rcases h.whole_or_opened with hall | ⟨construct, front, start, rfl, hfront⟩
  · exact .wholes (hkinds found hall)
  · have hstart := @CodeKinds.start construct _ (hkinds front hfront)
    rw [← construct.kind_lexeme_opened] at hstart
    rw [tokensOf_append, List.map_append]
    exact hstart

namespace CodeKinds

/-- Code has only starts of the parts of constructs. -/
theorem not_mem (h : CodeKinds kinds) (hpart : kind ∈ construct.parts)
    (hstart : ∀ other : Construct, other.startKind ≠ kind) : kind ∉ kinds := by
  intro hmem
  cases h with
  | wholes hkinds => exact hkinds _ hmem construct hpart
  | start hkinds =>
      rcases List.mem_append.mp hmem with hmem | hmem
      · exact hkinds _ hmem construct hpart
      · exact hstart _ (List.mem_singleton.mp hmem).symm

theorem contentKind_not_mem (h : CodeKinds kinds) (construct : Construct) :
    construct.contentKind ∉ kinds :=
  h.not_mem construct.contentKind_mem_parts fun other => other.startKind_ne_contentKind construct

theorem endKind_not_mem (h : CodeKinds kinds) (construct : Construct) :
    construct.endKind ∉ kinds :=
  h.not_mem construct.endKind_mem_parts fun other => other.startKind_ne_endKind construct

/-- Only the last kind of a line can be a start, whatever end stands before the code. -/
theorem startKind_not_mem (h : CodeKinds kinds) (construct : Construct) (front : List Kind)
    (hfront : construct.startKind ∉ front) :
    construct.startKind ∉ (front ++ kinds).dropLast := by
  intro hmem
  cases h with
  | wholes hkinds =>
      rcases List.mem_append.mp ((List.dropLast_sublist _).subset hmem) with hmem | hmem
      · exact hfront hmem
      · exact hkinds _ hmem construct construct.startKind_mem_parts
  | start hkinds =>
      rw [← List.append_assoc, List.dropLast_concat] at hmem
      rcases List.mem_append.mp hmem with hmem | hmem
      · exact hfront hmem
      · exact hkinds _ hmem construct construct.startKind_mem_parts

end CodeKinds

theorem LineReading.placed {text : Text} {lexed : LexedLine} (h : LineReading text mode lexed)
    (construct : Construct) : construct.Placed (lexed.tokens.map (·.kind)) := by
  cases h with
  | code hread =>
      have hcode := hread.codeKinds
      refine ⟨fun hmem => absurd hmem (hcode.contentKind_not_mem construct), ?_, ?_⟩
      · intro hmem
        exact hcode.endKind_not_mem construct (List.mem_of_mem_tail hmem)
      · exact hcode.startKind_not_mem construct [] List.not_mem_nil
  | @inside other _ _ =>
      refine ⟨?_, List.not_mem_nil, List.not_mem_nil⟩
      intro hmem
      rw [List.mem_singleton.mp hmem]
      rfl
  | @closes other _ _ _ _ hread =>
      have hcode := hread.codeKinds
      rw [List.map_cons]
      refine ⟨?_, hcode.endKind_not_mem construct, ?_⟩
      · intro hmem
        rcases List.mem_cons.mp hmem with heq | hmem
        · exact absurd heq (Construct.contentKind_ne_endKind _ _)
        · exact absurd hmem (hcode.contentKind_not_mem construct)
      · refine hcode.startKind_not_mem construct [other.endKind] ?_
        intro hmem
        exact Construct.startKind_ne_endKind _ _ (List.mem_singleton.mp hmem)

/-! ## Documents -/

namespace Document

theorem map_kind_shift (tokens : List Token) (distance : Nat) :
    (tokens.map (·.shift distance)).map (·.kind) = tokens.map (·.kind) := by
  rw [List.map_map]
  rfl

variable {document : Document} {lines : List Text} {groups : List (List Token)}

theorem History.bracketing (h : History lines groups document) :
    Bracketing (document.tokens.map (·.kind)) document.mode := by
  induction h with
  | empty => exact .nil
  | append _ happend ih =>
      obtain ⟨lexed, hread, rfl⟩ := append_ok_iff.mp happend
      rw [List.map_append, map_kind_shift]
      exact ih.line hread

theorem History.placed (h : History lines groups document) (construct : Construct) :
    ∀ group ∈ groups, construct.Placed (group.map (·.kind)) := by
  induction h with
  | empty =>
      intro group hmem
      cases hmem
  | append _ happend ih =>
      obtain ⟨lexed, hread, rfl⟩ := append_ok_iff.mp happend
      intro group hmem
      rcases List.mem_append.mp hmem with hmem | hmem
      · exact ih group hmem
      · rw [List.mem_singleton.mp hmem, tokensSince_tokenCount, map_kind_shift]
        exact hread.placed construct

/-- However a document grows, its kinds are bracketed for each construct, with content on lines of
its own, ends first and starts last on theirs. The mode is the one inside a construct exactly if
the kinds end there. -/
theorem History.wellBracketed (h : History lines groups document) :
    let kinds := document.tokens.map (·.kind)
    groups.flatten = document.tokens ∧ groups.length = lines.length ∧
      (∀ construct : Construct, construct.Bracketed kinds ∧
        (∀ group ∈ groups, construct.Placed (group.map (·.kind))) ∧
        (document.mode = .inside construct ↔ construct.EndsInside kinds)) ∧
      (document.mode = .default ↔ ∀ construct : Construct, ¬ construct.EndsInside kinds) := by
  have hkinds := h.bracketing
  refine ⟨h.flatten_eq, h.length_eq, ?_, ?_⟩
  · intro construct
    exact ⟨hkinds.bracketed construct, h.placed construct, hkinds.mode_eq_iff⟩
  · constructor
    · intro hmode construct hinside
      rw [hkinds.mode_eq_iff.mpr hinside] at hmode
      cases hmode
    · intro hnone
      cases hmode : document.mode with
      | default => rfl
      | inside construct => exact absurd (hkinds.mode_eq_iff.mp hmode) (hnone construct)

/-- A comment over three lines, and a text literal that is left open behind it. -/
theorem History.wellBracketed_comment :
    ∃ groups document,
      History [['a', '/', '*'], [], ['*', '/', '"']] groups document ∧
        document.mode = .inside .text ∧
        document.tokens.map (·.kind) = [.identifier, .multilineCommentStart,
          .multilineCommentContent, .multilineCommentEnd, .textLiteralStart] ∧
        Construct.comment.Bracketed (document.tokens.map (·.kind)) ∧
        Construct.text.EndsInside (document.tokens.map (·.kind)) := by
  let document : Document :=
    ⟨[⟨.identifier, 0, 1⟩, ⟨.multilineCommentStart, 1, 3⟩, ⟨.multilineCommentContent, 4, 4⟩,
      ⟨.multilineCommentEnd, 5, 7⟩, ⟨.textLiteralStart, 7, 8⟩], .inside .text, 3, 9⟩
  have hok : Document.empty.appendAll [['a', '/', '*'], [], ['*', '/', '"']] = .ok document := by
    decide
  obtain ⟨groups, hgroups⟩ := History.empty.appendAll hok
  obtain ⟨_, _, hconstructs, _⟩ := hgroups.wellBracketed
  refine ⟨groups, document, hgroups, rfl, rfl, (hconstructs .comment).1, ?_⟩
  exact (hconstructs .text).2.2.mp rfl

end Document

end TokenConcord.Lexing
