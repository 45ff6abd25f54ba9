import TokenConcord.Proofs.Lexing.History
import TokenConcord.Proofs.Lexing.LineFeeds
import TokenConcord.Proofs.Lexing.Lines
import TokenConcord.Proofs.Text.Cuts

/-!
# Lexing line by line and all at once

A text whose lexemes are found all at once is also lexed line by line, and the parts of each
construct put together again are its lexeme. What a line leaves to the next one is either code or
the rest of a construct, so the proof follows both through the remaining lines.
-/

namespace TokenConcord.Lexing

/-! ## Tokens as lexemes -/

/-- Whether the text has a quoted identifier where the token starts. -/
def Token.isQuoted (text : Text) (token : Token) : Bool :=
  (text.cut? token.start).any fun cut => Construct.quotedIdentifier.opener.isPrefixOf cut.2

/-- The lexeme that a token stands for, if it is no part of a construct. -/
def Token.lexeme (text : Text) (token : Token) : Lexeme :=
  match token.kind with
  | .multilineComment => .blockComment .closed
  | .textLiteral => .text .closed
  | .identifier => if token.isQuoted text then .quotedIdentifier .closed else .simple .identifier
  | kind => .simple kind

/-- The tokens of a text are these lexemes once the parts of each construct are put together: a
start, content and an end make up a closed one, and a start with content up to the last token one
that stays open. -/
inductive Glues (text : Text) : List Token → List LexemeSpan → Prop
  | nil : Glues text [] []
  | whole {token : Token} {tokens : List Token} {spans : List LexemeSpan} :
      (∀ construct : Construct, token.kind ∉ construct.parts) → Glues text tokens spans →
        Glues text (token :: tokens) (⟨token.lexeme text, token.start, token.stop⟩ :: spans)
  | closed {construct : Construct} {first last : Token} {inner tokens : List Token}
      {spans : List LexemeSpan} :
      first.kind = construct.startKind → (∀ token ∈ inner, token.kind = construct.contentKind) →
      last.kind = construct.endKind → Glues text tokens spans →
        Glues text (first :: (inner ++ last :: tokens))
          (⟨construct.lexeme .closed, first.start, last.stop⟩ :: spans)
  | opened {construct : Construct} {first last : Token} {inner : List Token} :
      first.kind = construct.startKind → (∀ token ∈ inner, token.kind = construct.contentKind) →
      (first :: inner).getLast? = some last →
        Glues text (first :: inner) [⟨construct.lexeme .opened, first.start, last.stop⟩]

variable {construct : Construct} {whole before line content rest text after : Text}
  {lines : List Text} {spans found : List LexemeSpan} {tokens : List Token} {lexeme : Lexeme}
  {offset start : Nat}

/-- The token of a whole lexeme. -/
def LexemeSpan.token (span : LexemeSpan) : Token := ⟨span.lexeme.kind, span.start, span.stop⟩

theorem isQuoted_iff {token : Token} (htext : whole = before ++ rest)
    (hstart : token.start = before.width) :
    token.isQuoted whole = true ↔ Construct.quotedIdentifier.opener <+: rest := by
  rw [Token.isQuoted, hstart, htext, Text.cut?_append, Option.any_some,
    List.isPrefixOf_iff_prefix]

/-- The token of a whole lexeme stands for it. -/
theorem Starts.token_lexeme {word : Text} {token : Token} (h : Starts word lexeme rest)
    (hwhole : lexeme.Whole) (htext : whole = before ++ (word ++ after))
    (hstart : token.start = before.width) (hkind : token.kind = lexeme.kind) :
    token.lexeme whole = lexeme := by
  have hquoted := isQuoted_iff htext hstart
  unfold Token.lexeme
  rw [hkind]
  cases h with
  | @simple _ _ kind hne hkinds hhash =>
      dsimp only [Lexeme.kind]
      split
      · exact absurd (by decide) hkinds
      · exact absurd (by decide) hkinds
      · rw [if_neg]
        rw [hquoted]
        rintro ⟨behind, hbehind⟩
        obtain ⟨c, more, rfl⟩ := List.exists_cons_of_ne_nil hne
        cases (List.cons.inj hbehind).1
        exact hhash.elim (fun h => h rfl) (fun h => h rfl)
      · rfl
  | @closed construct content _ _ =>
      rw [construct.kind_lexeme_closed]
      cases construct with
      | comment => rfl
      | text => rfl
      | quotedIdentifier =>
          dsimp only [Construct.wholeKind]
          rw [if_pos]
          · rfl
          · rw [hquoted, List.append_assoc]
            exact List.prefix_append _ _
  | opened => exact absurd hwhole (Construct.not_whole_opened _)

theorem Reading.token_lexeme {unread : Text} (h : Reading before.width text found unread)
    (htext : whole = before ++ (text ++ after)) :
    ∀ span ∈ found, span.lexeme.Whole → span.token.lexeme whole = span.lexeme := by
  generalize hoffset : before.width = offset at h
  induction h generalizing before with
  | done | stuck =>
      intro span hmem
      cases hmem
  | @blank offset c rest _ found _ _ ih =>
      refine @ih (before ++ [c]) ?_ ?_
      · rw [htext, List.append_assoc]
        rfl
      · rw [Text.width_append, hoffset]
        rfl
  | @lexeme offset word rest _ lexeme found _ _ hstarts _ ih =>
      rw [List.append_assoc] at htext
      intro span hmem hwhole
      rcases List.mem_cons.mp hmem with rfl | hmem
      · exact hstarts.token_lexeme hwhole htext hoffset.symm rfl
      · refine @ih (before ++ word) ?_ ?_ span hmem hwhole
        · rw [htext, List.append_assoc]
        · rw [Text.width_append, hoffset]

/-- Whole lexemes glue by themselves. -/
theorem Glues.append_wholes (h : Glues whole tokens spans)
    (hfound : ∀ span ∈ found, span.lexeme.Whole ∧ span.token.lexeme whole = span.lexeme) :
    Glues whole (tokensOf found ++ tokens) (found ++ spans) := by
  induction found with
  | nil => exact h
  | cons span found ih =>
      obtain ⟨⟨hwhole, hlexeme⟩, hfound⟩ := List.forall_mem_cons.mp hfound
      have hglues := @Glues.whole whole span.token _ _ hwhole.kind (ih hfound)
      rw [hlexeme] at hglues
      exact hglues

/-! ## From one line to the next -/

theorem intercalate_append_cons (front line : Text) (lines : List Text) :
    ['\n'].intercalate ((front ++ line) :: lines) = front ++ ['\n'].intercalate (line :: lines) := by
  cases lines with
  | nil => rw [List.intercalate_singleton, List.intercalate_singleton]
  | cons next lines =>
      rw [List.intercalate_cons_cons, List.intercalate_cons_cons]
      simp only [List.append_assoc]

theorem width_feed : (before ++ line ++ ['\n']).width = before.width + line.width + 1 := by
  rw [Text.width_append, Text.width_append]
  rfl

/-- A closer on a line is found with more lines behind it. -/
theorem Construct.content?_intercalate (h : construct.content? line = some content)
    (lines : List Text) : construct.content? (['\n'].intercalate (line :: lines)) = some content := by
  cases lines with
  | nil => rwa [List.intercalate_singleton]
  | cons next lines =>
      rw [List.intercalate_cons_cons, List.append_assoc]
      exact construct.content?_gap_some feed_mem_gaps h _

/-- What is read behind some text on a line and on the lines behind it is what they add to a
document. -/
def RefinesCode (whole : Text) (lines : List Text) : Prop :=
  ∀ ⦃before rest : Text⦄ ⦃spans : List LexemeSpan⦄,
    whole = before ++ ['\n'].intercalate (rest :: lines) →
    Reading before.width (['\n'].intercalate (rest :: lines)) spans [] →
      ∃ found, Reading before.width rest found [] ∧
        ∀ document : Document, document.mode = modeBehind found →
          document.nextStart = before.width + rest.width + 1 →
            ∃ later more, document.appendAll lines = .ok later ∧
              later.tokens = document.tokens ++ more ∧ Glues whole (tokensOf found ++ more) spans

/-- What is read from the beginning of a line on, inside a construct, is what the lines add to a
document behind the start of the construct and its content. -/
def RefinesInside (whole : Text) (construct : Construct) (line : Text) (lines : List Text) : Prop :=
  ∀ ⦃before : Text⦄ ⦃start : Nat⦄ ⦃spans : List LexemeSpan⦄,
    whole = before ++ ['\n'].intercalate (line :: lines) →
    construct.resume start before.width (['\n'].intercalate (line :: lines)) = (spans, []) →
      ∀ document : Document, document.mode = .inside construct →
        document.nextStart = before.width →
          ∃ later more, document.appendAll (line :: lines) = .ok later ∧
            later.tokens = document.tokens ++ more ∧
            ∀ (first : Token) (inner : List Token), first.kind = construct.startKind →
              first.start = start → (∀ token ∈ inner, token.kind = construct.contentKind) →
                Glues whole (first :: (inner ++ more)) spans

/-- A line of code adds what is read on it. -/
theorem Document.append_code {document : Document} (hline : line.dropReturn = line)
    (hmode : document.mode = .default) (hread : Reading document.nextStart line found []) :
    ∃ next, document.append line = .ok next ∧ next.tokens = document.tokens ++ tokensOf found ∧
      next.mode = modeBehind found ∧ next.nextStart = document.nextStart + line.width + 1 := by
  obtain ⟨inner, hinner, rfl⟩ := @Reading.unshift 0 _ _ _ _ hread
  have hlexed := LineReading.code hinner
  rw [← hmode, ← hline] at hlexed
  rw [tokensOf_shift, modeBehind_shift]
  exact ⟨_, append_ok_iff.mpr ⟨_, hlexed, rfl⟩, rfl, rfl, rfl⟩

/-- A line without a closer adds a piece of content. -/
theorem Document.append_inside {document : Document} (hline : line.dropReturn = line)
    (hmode : document.mode = .inside construct) (h : construct.content? line = none) :
    ∃ next piece, document.append line = .ok next ∧ next.tokens = document.tokens ++ [piece] ∧
      next.mode = .inside construct ∧ next.nextStart = document.nextStart + line.width + 1 ∧
      piece.kind = construct.contentKind ∧ piece.stop = document.nextStart + line.width := by
  have hlexed := LineReading.inside h
  rw [← hmode, ← hline] at hlexed
  refine ⟨_, _, append_ok_iff.mpr ⟨_, hlexed, rfl⟩, rfl, hmode, rfl, rfl, ?_⟩
  rw [hline]
  rfl

/-- The line with the closer adds its end, and what is read behind it. -/
theorem Document.append_closes {document : Document}
    (hline : (content ++ (construct.closing ++ rest)).dropReturn =
      content ++ (construct.closing ++ rest))
    (hmode : document.mode = .inside construct)
    (h : construct.content? (content ++ (construct.closing ++ rest)) = some content)
    (hread : Reading (document.nextStart + (content ++ construct.closing).width) rest found []) :
    ∃ next last, document.append (content ++ (construct.closing ++ rest)) = .ok next ∧
      next.tokens = document.tokens ++ last :: tokensOf found ∧ next.mode = modeBehind found ∧
      next.nextStart =
        document.nextStart + (content ++ construct.closing).width + rest.width + 1 ∧
      last.kind = construct.endKind ∧
      last.stop = document.nextStart + (content ++ construct.closing).width := by
  obtain ⟨inner, hinner, rfl⟩ := hread.unshift
  have hlexed := LineReading.closes h hinner
  rw [← hmode, ← hline] at hlexed
  rw [tokensOf_shift, modeBehind_shift]
  refine ⟨_, _, append_ok_iff.mpr ⟨_, hlexed, rfl⟩, rfl, rfl, ?_, rfl, rfl⟩
  simp only [Text.width_append, Nat.add_assoc]

/-- The last line leaves the construct open. -/
theorem refinesInside_last (hline : line.dropReturn = line)
    (hcontent : construct.content? line = none) : RefinesInside whole construct line [] := by
  intro before start spans hwhole hresume document hmode hstart
  obtain ⟨next, piece, happend, htokens, _, _, hkind, hstop⟩ :=
    Document.append_inside hline hmode hcontent
  rw [List.intercalate_singleton, Construct.resume, hcontent] at hresume
  cases hresume
  refine ⟨next, [piece], Document.appendAll_cons_ok_iff.mpr ⟨next, happend, rfl⟩, htokens, ?_⟩
  intro first inner hfirst hbegin hinner
  have hpieces := List.forall_mem_append.mpr ⟨hinner, List.forall_mem_singleton.mpr hkind⟩
  have hlast : (first :: (inner ++ [piece])).getLast? = some piece := by
    rw [← List.cons_append, List.getLast?_concat]
  have hglues := @Glues.opened whole _ _ _ _ hfirst hpieces hlast
  rw [hbegin, hstop, hstart] at hglues
  exact hglues

/-- A line without a closer is one more piece of content. -/
theorem refinesInside_line {next : Text} (hline : line.dropReturn = line)
    (hcontent : construct.content? line = none)
    (hinside : RefinesInside whole construct next lines) :
    RefinesInside whole construct line (next :: lines) := by
  intro before start spans hwhole hresume document hmode hstart
  obtain ⟨reached, piece, happend, htokens, hmode, hnext, hkind, _⟩ :=
    Document.append_inside hline hmode hcontent
  rw [List.intercalate_cons_cons, List.append_assoc] at hwhole hresume
  rw [List.singleton_append, Construct.resume_feed hcontent] at hresume
  rw [← List.append_assoc, ← List.append_assoc] at hwhole
  rw [hstart, ← width_feed] at hnext
  rw [← width_feed] at hresume
  obtain ⟨later, added, hlater, hadded, hglues⟩ := hinside hwhole hresume reached hmode hnext
  refine ⟨later, piece :: added, Document.appendAll_cons_ok_iff.mpr ⟨reached, happend, hlater⟩,
    ?_, ?_⟩
  · rw [hadded, htokens, List.append_assoc]
    rfl
  · intro first inner hfirst hbegin hinner
    have hpieces := List.forall_mem_append.mpr ⟨hinner, List.forall_mem_singleton.mpr hkind⟩
    have hgroup := hglues first _ hfirst hbegin hpieces
    rw [List.append_assoc] at hgroup
    exact hgroup

/-- A line with the closer goes on with code behind it. -/
theorem refinesInside_closes
    (hline : (content ++ (construct.closing ++ rest)).dropReturn =
      content ++ (construct.closing ++ rest))
    (hcontent : construct.content? (content ++ (construct.closing ++ rest)) = some content)
    (hcode : RefinesCode whole lines) :
    RefinesInside whole construct (content ++ (construct.closing ++ rest)) lines := by
  intro before start spans hwhole hresume document hmode hstart
  have hclosed := Construct.content?_intercalate hcontent lines
  rw [← List.append_assoc, intercalate_append_cons, List.append_assoc] at hclosed hresume
  rw [← List.append_assoc, intercalate_append_cons, ← List.append_assoc] at hwhole
  rw [Construct.resume_some hclosed] at hresume
  obtain ⟨rfl, hunread⟩ := Prod.mk.inj hresume
  -- Behind the closer the text and the document are read from the same byte on.
  have hread := reading_lexemesFrom (before.width + (content ++ construct.closing).width)
    (['\n'].intercalate (rest :: lines))
  rw [hunread, ← Text.width_append] at hread
  obtain ⟨found, hfound, hlater⟩ := hcode hwhole hread
  rw [Text.width_append] at hlater
  rw [Text.width_append, ← hstart] at hfound
  obtain ⟨next, last, happend, htokens, hmode, hnext, hkind, hstop⟩ :=
    Document.append_closes hline hmode hcontent hfound
  rw [hstart] at hnext
  obtain ⟨later, added, hlater, hadded, hglues⟩ := hlater next hmode hnext
  refine ⟨later, last :: (tokensOf found ++ added),
    Document.appendAll_cons_ok_iff.mpr ⟨next, happend, hlater⟩, ?_, ?_⟩
  · rw [hadded, htokens, List.append_assoc]
    rfl
  · intro first inner hfirst hbegin hinner
    have hgroup := Glues.closed hfirst hinner hkind hglues
    rw [hbegin, hstop, hstart, ← Text.width_append] at hgroup
    rw [← Text.width_append]
    exact hgroup

theorem refinesCode_nil : RefinesCode whole [] := by
  intro before rest spans hwhole hread
  rw [List.intercalate_singleton] at hwhole hread
  have htext : whole = before ++ (rest ++ []) := by rwa [List.append_nil]
  have htoken := hread.token_lexeme htext
  refine ⟨spans, hread, fun document _ _ => ⟨document, [], rfl, (List.append_nil _).symm, ?_⟩⟩
  rw [List.append_nil]
  rcases hread.whole_or_opened with hall | ⟨construct, front, start, rfl, hfront⟩
  · have hglues := Glues.nil.append_wholes fun span hmem =>
      ⟨hall span hmem, htoken span hmem (hall span hmem)⟩
    rwa [List.append_nil, List.append_nil] at hglues
  · rw [tokensOf_append]
    refine Glues.append_wholes ?_ fun span hmem => ⟨hfront span hmem, ?_⟩
    · refine Glues.opened construct.kind_lexeme_opened (fun token hmem => ?_) rfl
      cases hmem
    · exact htoken span (List.mem_append_left _ hmem) (hfront span hmem)

/-- A line feed behind code is inside the construct that the code leaves open. -/
theorem refinesCode_cons (hinside : ∀ construct, RefinesInside whole construct line lines) :
    RefinesCode whole (line :: lines) := by
  intro before rest spans hwhole hread
  rw [List.intercalate_cons_cons, List.append_assoc, List.singleton_append] at hwhole hread
  have hfront := reading_lexemesFrom before.width rest
  have hunread := congrArg Prod.snd hread.lexemesFrom_eq
  obtain ⟨construct, front, start, hstop, hwholes, hfound, hlater⟩ := hfront.feed hunread
  rw [hstop] at hfront
  refine ⟨_, hfront, fun document hmode hnext => ?_⟩
  have htoken := hfront.token_lexeme hwhole
  rw [hfound] at hmode htoken ⊢
  rw [modeBehind_concat, construct.modeAfter_lexeme_opened] at hmode
  rw [hread.lexemesFrom_eq] at hlater
  obtain ⟨rfl, hresume⟩ := Prod.mk.inj hlater
  -- Behind the line feed the text and the document go on with the construct.
  rw [← List.singleton_append, ← List.append_assoc, ← List.append_assoc] at hwhole
  rw [← width_feed] at hnext hresume ⊢
  obtain ⟨later, added, hlater, hadded, hglues⟩ :=
    hinside construct hwhole (Prod.ext rfl hresume.symm) document hmode hnext
  refine ⟨later, added, hlater, hadded, ?_⟩
  rw [tokensOf_append, List.append_assoc]
  refine Glues.append_wholes (hglues _ [] construct.kind_lexeme_opened rfl ?_) fun span hmem =>
    ⟨hwholes span hmem, htoken span (List.mem_append_left _ hmem) (hwholes span hmem)⟩
  intro token hmem
  cases hmem

/-- However many lines follow, they are read on as they are lexed one by one. -/
theorem refines (hlines : ∀ line ∈ lines, line.dropReturn = line) :
    RefinesCode whole lines ∧
      ∀ next more, lines = next :: more → ∀ construct, RefinesInside whole construct next more := by
  induction lines with
  | nil => exact ⟨refinesCode_nil, fun next more heq => by cases heq⟩
  | cons line lines ih =>
      obtain ⟨hline, hlines⟩ := List.forall_mem_cons.mp hlines
      obtain ⟨hcode, hlater⟩ := ih hlines
      -- Inside a construct a line needs both: code behind a closer, or the construct without one.
      have hinside : ∀ construct, RefinesInside whole construct line lines := by
        intro construct
        cases hcontent : construct.content? line with
        | some content =>
            obtain ⟨rest, rfl⟩ := Construct.content?_eq_some hcontent
            exact refinesInside_closes hline hcontent hcode
        | none =>
            cases lines with
            | nil => exact refinesInside_last hline hcontent
            | cons next lines =>
                exact refinesInside_line hline hcontent (hlater next lines rfl construct)
      refine ⟨refinesCode_cons hinside, ?_⟩
      rintro next more ⟨⟩
      exact hinside

/-! ## Line feeds -/

/-- A line feed that is read over stands in a construct. -/
theorem Reading.feed_inside (h : Reading offset text found []) (htext : text = line ++ '\n' :: rest) :
    ∃ span ∈ found, span.lexeme.construct?.isSome ∧ span.start ≤ offset + line.width ∧
      offset + line.width < span.stop := by
  generalize hunread : ([] : Text) = unread at h
  induction h generalizing line with
  | done => cases line <;> cases htext
  | stuck => cases hunread
  | @blank offset c behind _ found hblank _ ih =>
      cases line with
      | nil =>
          cases htext
          cases hblank
      | cons d line =>
          obtain ⟨rfl, hbehind⟩ := List.cons.inj htext
          rw [Text.width_cons, ← Nat.add_assoc]
          exact ih hbehind hunread
  | @lexeme offset word behind _ lexeme found hblank hfirst hstarts hread ih =>
      -- The line feed stands in the word or behind it.
      have hbehind : ∀ inner, behind = inner ++ '\n' :: rest → line = word ++ inner →
          ∃ span ∈ (⟨lexeme, offset, offset + word.width⟩ : LexemeSpan) :: found,
            span.lexeme.construct?.isSome ∧ span.start ≤ offset + line.width ∧
              offset + line.width < span.stop := by
        intro inner hinner hline
        obtain ⟨span, hmem, hspan⟩ := ih hinner hunread
        rw [hline, Text.width_append, ← Nat.add_assoc]
        exact ⟨span, List.mem_cons_of_mem _ hmem, hspan⟩
      rcases List.append_eq_append_iff.mp htext with ⟨inner, hline, hinner⟩ | ⟨tail, hword, htail⟩
      · exact hbehind inner hinner hline
      · cases tail with
        | nil => exact hbehind [] htail.symm (by rw [hword, List.append_nil, List.append_nil])
        | cons c tail =>
            obtain ⟨rfl, -⟩ := List.cons.inj htail
            have hfeed : '\n' ∈ word := by
              rw [hword]
              exact List.mem_append_right _ List.mem_cons_self
            refine ⟨_, List.mem_cons_self, ?_, Nat.le_add_right _ _, ?_⟩
            · cases hstarts with
              | simple => exact absurd hfeed (not_feed_mem_of_simple hfirst)
              | closed => rw [Construct.construct?_lexeme]; rfl
              | opened => rw [Construct.construct?_lexeme]; rfl
            · have hpos : 0 < '\n'.utf8Size := by decide
              dsimp only
              rw [hword, Text.width_append, Text.width_cons]
              omega

/-! ## Whole texts -/

/-- A text without carriage returns whose lexemes can all be told at once is lexed line by line,
and its tokens put together are these lexemes: a group from a start to an end is a closed
construct, a group without an end one that stays open, and each other token is the lexeme of its
kind. All line feeds of the text are inside constructs. -/
theorem Document.ofText_glues (hreturn : '\r' ∉ text) (hread : (lexemes text).2 = []) :
    ∃ document, ofText text = .ok document ∧ Glues text document.tokens (lexemes text).1 ∧
      ∀ front behind, text = front ++ '\n' :: behind →
        ∃ span ∈ (lexemes text).1, span.lexeme.construct?.isSome ∧
          span.start ≤ front.width ∧ front.width < span.stop := by
  have hreading := reading_lexemesFrom 0 text
  rw [← lexemes, hread] at hreading
  generalize (lexemes text).1 = spans at hreading ⊢
  have hlines : ∀ line ∈ text.splitLines, line.dropReturn = line := by
    intro line hmem
    have hlast : line.getLast? ≠ some '\r' := fun hlast =>
      hreturn (Text.mem_of_mem_splitLines hmem (List.mem_of_getLast? hlast))
    exact IsLine.dropReturn ⟨Text.not_mem_of_mem_splitLines hmem, hlast⟩
  obtain ⟨line, lines, hsplit⟩ := List.exists_cons_of_ne_nil (Text.splitLines_ne_nil text)
  have htext := Text.intercalate_splitLines text
  rw [hsplit] at htext hlines
  obtain ⟨hline, hlines⟩ := List.forall_mem_cons.mp hlines
  have hlater := @(refines hlines).1 [] line spans htext.symm
  rw [htext] at hlater
  obtain ⟨found, hfound, hlater⟩ := hlater hreading
  obtain ⟨next, happend, htokens, hmode, hnext⟩ := @append_code _ _ .empty hline rfl hfound
  obtain ⟨later, added, hlater, hadded, hglues⟩ := hlater next hmode hnext
  refine ⟨later, ?_, ?_, ?_⟩
  · rw [ofText, hsplit]
    exact appendAll_cons_ok_iff.mpr ⟨next, happend, hlater⟩
  · rw [hadded, htokens]
    rwa [empty, List.nil_append]
  · intro front behind hfront
    have hfeed := hreading.feed_inside hfront
    rwa [Nat.zero_add] at hfeed

/-- A comment over an empty line, a text literal with a doubled quote at the end of a line, and a
quoted identifier that stays open. -/
theorem Document.ofText_glues_opened :
    let text : Text := "a /*\n\n*/ \"b\"\"\nc\" #\"d\ne".toList
    ∃ document, ofText text = .ok document ∧
      document.tokens.map (·.kind) = [.identifier, .multilineCommentStart,
        .multilineCommentContent, .multilineCommentEnd, .textLiteralStart, .textLiteralEnd,
        .quotedIdentifierStart, .quotedIdentifierContent] ∧
      Glues text document.tokens [⟨.simple .identifier, 0, 1⟩, ⟨.blockComment .closed, 2, 8⟩,
        ⟨.text .closed, 9, 16⟩, ⟨.quotedIdentifier .opened, 17, 22⟩] := by
  intro text
  have hread : lexemes text = ([⟨.simple .identifier, 0, 1⟩, ⟨.blockComment .closed, 2, 8⟩,
      ⟨.text .closed, 9, 16⟩, ⟨.quotedIdentifier .opened, 17, 22⟩], []) := by
    decide +kernel
  have hreturn : '\r' ∉ text := by decide
  obtain ⟨document, hdocument, hglues, -⟩ := ofText_glues hreturn (by rw [hread])
  rw [hread] at hglues
  refine ⟨document, hdocument, ?_, hglues⟩
  have hkinds : (ofText text).map (·.tokens.map (·.kind)) = .ok [.identifier,
      .multilineCommentStart, .multilineCommentContent, .multilineCommentEnd, .textLiteralStart,
      .textLiteralEnd, .quotedIdentifierStart, .quotedIdentifierContent] := by
    decide +kernel
  rw [hdocument] at hkinds
  exact Except.ok.inj hkinds

end TokenConcord.Lexing
