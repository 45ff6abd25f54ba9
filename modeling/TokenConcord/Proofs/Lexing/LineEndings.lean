import TokenConcord.Proofs.Lexing.History
import TokenConcord.Proofs.Lexing.Lines
import TokenConcord.Proofs.Outcome

/-!
# Carriage returns in front of line feeds

A line that ends in a carriage return gives the tokens that it gives without, and leaves the same
mode behind. Only the next line starts one byte later. So carriage returns in front of all line
feeds move the tokens of each line by the number of lines before it.
-/

namespace TokenConcord

open Outcome

namespace Text

/-- The text with a carriage return in front of each line feed. -/
def withReturns (text : Text) : Text :=
  text.flatMap fun c => if c = '\n' then ['\r', '\n'] else [c]

/-- The second lines are the first ones with a carriage return behind each but the last. -/
inductive Returned : List Text → List Text → Prop
  | last (line : Text) : Returned [line] [line]
  | cons (line : Text) {lines lines' : List Text} :
      Returned lines lines' → Returned (line :: lines) ((line ++ ['\r']) :: lines')

theorem splitLines_withReturns (text : Text) :
    Returned text.splitLines (withReturns text).splitLines := by
  induction text with
  | nil => exact .last []
  | cons c text ih =>
      by_cases hc : c = '\n'
      · subst hc
        change Returned (splitLines ('\n' :: text))
          (splitLines ('\r' :: '\n' :: (withReturns text)))
        -- The carriage return is the first character of the line that the line feed ends.
        rw [splitLines_feed, splitLines, if_neg (by decide), splitLines_feed]
        exact .cons [] ih
      · have hreturns : withReturns (c :: text) = c :: (withReturns text) := by
          rw [withReturns, List.flatMap_cons, if_neg hc]
          rfl
        obtain ⟨line, lines, hline, hlines⟩ := splitLines_char hc text
        obtain ⟨line', lines', hline', hlines'⟩ := splitLines_char hc (withReturns text)
        rw [hline, hline'] at ih
        rw [hreturns, hlines, hlines']
        cases ih with
        | last => exact .last _
        | cons line hreturned => exact .cons (c :: line) hreturned

end Text

namespace Lexing.Document

variable {document document' : Document} {line line' : Text} {lines lines' : List Text}
  {groups : List (List Token)}

/-- The second document is left in the same mode behind as many lines, and its next line starts
one byte later for each of them. -/
structure SpacedOut (document document' : Document) : Prop where
  mode : document'.mode = document.mode
  lines : document'.lines = document.lines
  nextStart : document'.nextStart = document.nextStart + document.lines

/-- Both documents grow to others of the same mode, and the tokens added to the second one are
moved by the number of lines before. -/
structure GrowsAlike (document document' later later' : Document) : Prop where
  mode : later'.mode = later.mode
  lines : later'.lines = later.lines
  added : later'.tokensSince document'.tokenCount =
    (later.tokensSince document.tokenCount).map (·.shift document.lines)

/-- A line gives the same with and without a carriage return behind it, which only delays the
next line. -/
theorem SpacedOut.append (h : SpacedOut document document')
    (hline : line'.dropReturn = line.dropReturn) :
    Alike (fun later later' => GrowsAlike document document' later later' ∧
        (line'.width = line.width + 1 → SpacedOut later later'))
      (document.append line) (document'.append line') := by
  unfold Document.append
  rw [hline, h.mode, h.lines]
  refine (Alike.refl (fun _ => rfl) _).bind fun lexed lexed' heq => ?_
  subst heq
  refine .ok ⟨⟨rfl, rfl, ?_⟩, fun hwidth => ⟨rfl, rfl, ?_⟩⟩
  · rw [tokensSince_tokenCount, tokensSince_tokenCount, List.map_map, h.nextStart]
    refine List.map_congr_left fun token _ => ?_
    simp only [Function.comp, Token.shift, Token.mk.injEq, true_and]
    omega
  · dsimp only
    rw [h.nextStart, hwidth]
    omega

/-- The tokens of lines, moved by the number of lines before. -/
def moveLines (groups : List (List Token)) : List (List Token) :=
  groups.mapIdx fun before group => group.map (·.shift before)

/-- Both documents are left in the same mode behind as many lines, and the tokens that a line
added to the second one are those that it added to the first one, moved by the number of lines
before. -/
structure SameLines (lines lines' : List Text) (document document' : Document) : Prop where
  mode : document'.mode = document.mode
  count : document'.lines = document.lines
  tokens : ∃ groups, History lines groups document ∧ History lines' (moveLines groups) document'

/-- What a line adds to both documents goes behind both histories. -/
theorem GrowsAlike.histories {later later' : Document}
    (h : GrowsAlike document document' later later')
    (hhistory : History lines groups document)
    (hhistory' : History lines' (moveLines groups) document')
    (happend : document.append line = .ok later) (happend' : document'.append line' = .ok later') :
    ∃ groups, History (lines ++ [line]) groups later ∧
      History (lines' ++ [line']) (moveLines groups) later' := by
  refine ⟨_, hhistory.append happend, ?_⟩
  rw [moveLines, List.mapIdx_concat, hhistory.length_eq, ← hhistory.lines_eq, ← h.added]
  exact hhistory'.append happend'

theorem appendAll_sameLines {before before' : List Text} (h : SpacedOut document document')
    (hhistory : History before groups document)
    (hhistory' : History before' (moveLines groups) document')
    (hlines : Text.Returned lines lines') (hreturn : ∀ line ∈ lines, '\r' ∉ line) :
    Alike (SameLines (before ++ lines) (before' ++ lines')) (document.appendAll lines)
      (document'.appendAll lines') := by
  -- Behind the last line nothing starts, so only the lines before it have to be spaced out.
  induction hlines generalizing document document' before before' groups with
  | last line =>
      rw [appendAll, appendAll, List.foldlM_cons, List.foldlM_cons]
      refine (h.append rfl).attach.bind fun later later' happends => ?_
      obtain ⟨happend, happend', hgrows, _⟩ := happends
      exact .ok ⟨hgrows.mode, hgrows.lines, hgrows.histories hhistory hhistory' happend happend'⟩
  | @cons line lines lines' _ ih =>
      obtain ⟨hfirst, hreturn⟩ := List.forall_mem_cons.mp hreturn
      have hline : (line ++ ['\r']).dropReturn = line.dropReturn := by
        rw [Text.dropReturn_append_return, Text.dropReturn_of_not_mem hfirst]
      rw [appendAll, appendAll, List.foldlM_cons, List.foldlM_cons]
      refine (h.append hline).attach.bind fun later later' happends => ?_
      obtain ⟨happend, happend', hgrows, hspaced⟩ := happends
      obtain ⟨groups, hlater, hlater'⟩ := hgrows.histories hhistory hhistory' happend happend'
      have hrest := ih (hspaced (Text.width_append line ['\r'])) hlater hlater' hreturn
      rw [List.append_assoc, List.append_assoc] at hrest
      exact hrest

theorem SameLines.kinds (h : SameLines lines lines' document document') :
    document'.tokens.map (·.kind) = document.tokens.map (·.kind) := by
  obtain ⟨groups, hhistory, hhistory'⟩ := h.tokens
  rw [← hhistory.flatten_eq, ← hhistory'.flatten_eq, List.map_flatten, List.map_flatten]
  refine congrArg List.flatten (List.ext_getElem? fun number => ?_)
  rw [List.getElem?_map, List.getElem?_map, moveLines, List.getElem?_mapIdx, Option.map_map]
  refine Option.map_congr fun group _ => ?_
  rw [Function.comp, List.map_map]
  rfl

/-- Carriage returns in front of all line feeds change nothing but positions: the document fails
with the same error, or it has the same lines with the same tokens, those of each line moved by the
number of lines before it. -/
theorem ofText_sameLines {text : Text} (h : '\r' ∉ text) :
    Alike (SameLines text.splitLines (Text.withReturns text).splitLines) (ofText text)
      (ofText (Text.withReturns text)) := by
  refine appendAll_sameLines ⟨rfl, rfl, rfl⟩ .empty .empty (Text.splitLines_withReturns text) ?_
  exact fun line hmem hc => h (Text.mem_of_mem_splitLines hmem hc)

end Lexing.Document

end TokenConcord
