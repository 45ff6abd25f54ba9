import TokenConcord.Proofs.Bundled.FirstRule
import TokenConcord.Proofs.Lexing.Items
import TokenConcord.Proofs.Reconcile.Units
import TokenConcord.Reconcile.Classification

/-!
# Items under the bundled grammar

In code the grammar takes each item of a line as a whole and leaves nothing open behind it. Its
tokens make up one unit, with a label that the standard table accepts for the kind of the item.
-/

namespace TokenConcord.Bundled

open Pattern Grammar Lexing TokenRun

variable {front text rest : Text} {kind : Kind} {bond : Bond} {id : RuleId}

/-! ## Labels -/

/-- The standard table accepts the label for the kind. -/
def accepts (kind : Kind) (label : String) : Bool :=
  (ClassificationTable.standardEntries.find? (·.1 == kind)).any
    fun entry => (ExpectedScope.ofLabel entry.2).accepts label

/-- Labels that open a unit of several tokens. -/
def openerLabels : List String :=
  [Label.quotedIdentifierBegin, Label.stringBegin, Label.blockComment]

/-- The label listed for a kind. -/
def listed? (kind : Kind) : Option String :=
  (ClassificationTable.standardEntries.find? (·.1 == kind)).map (·.2)

/-- The label that a rule without captures gives to its matches. -/
def labelOf? : Rule → Option String
  | ⟨_, [label], .single _ []⟩ => some label
  | _ => none

theorem labelOf?_eq_some {rule : Rule} {label : String} (h : labelOf? rule = some label) :
    ∃ location pattern, rule = ⟨location, [label], .single pattern []⟩ := by
  unfold labelOf? at h
  split at h
  next location found pattern =>
    cases h
    exact ⟨location, pattern, rfl⟩
  next => cases h

theorem accepts_listed {label : String} (h : listed? kind = some label) :
    accepts kind label = true := by
  obtain ⟨entry, hentry, rfl⟩ := Option.map_eq_some_iff.mp h
  rw [accepts, hentry, Option.any_some, ExpectedScope.ofLabel]
  split
  · exact beq_self_eq_true _
  · exact List.isPrefixOf_iff_prefix.mpr (List.prefix_refl _)

/-- No rule without captures has the label of an opener. -/
theorem labelOf?_not_opener : ∀ rule ∈ compiled.rules, ∀ label ∈ labelOf? rule,
    label ∉ openerLabels := by
  decide

/-- The rule gives its matches one label, and the table accepts it for the kind. -/
def Labels (id : RuleId) (kind : Kind) : Prop :=
  ∃ rule label, compiled.rules[id]? = some rule ∧ labelOf? rule = some label ∧
    accepts kind label = true

theorem labels_of_listed (h : (compiled.rules[id]?.bind labelOf?).isSome = true ∧
    compiled.rules[id]?.bind labelOf? = listed? kind) : Labels id kind := by
  obtain ⟨hsome, hlisted⟩ := h
  obtain ⟨label, hlabel⟩ := Option.isSome_iff_exists.mp hsome
  obtain ⟨rule, hrule, hlabelOf⟩ := Option.bind_eq_some_iff.mp hlabel
  exact ⟨rule, label, hrule, hlabelOf, accepts_listed (hlisted ▸ hlabel)⟩

/-! ## Taking a text -/

/-- Scopes of code outside of records. -/
def rootScopes : List String := [compiled.scopeName]

/-- In code the grammar gives one unit for a text, which covers it and has a label for the kind,
and goes on behind the text. -/
def TakenAs (kind : Kind) (front text rest : Text) : Prop :=
  ∀ run : TokenRun, run.stop ≤ front.width → ∃ tokens unit,
    compiled.takeAll (.between front (text ++ rest)) compiled.initialStack run =
      compiled.takeAll (.between (front ++ text) rest) compiled.initialStack
        ⟨run.tokens ++ gap run.stop front.width rootScopes ++ tokens, (front ++ text).width⟩ ∧
    Unites tokens [unit] ∧ unit.start = front.width ∧ unit.stop = (front ++ text).width ∧
      accepts kind unit.innermost = true

theorem isCode_root : IsCode compiled.initialStack.top := Or.inl rfl

theorem grounded_root : compiled.Grounded compiled.initialStack := grounded rfl

/-- What a rule without captures takes is one token with its label. -/
theorem takenAs_single (htext : text ≠ []) (hlabels : Labels id kind)
    {captures : Captures}
    (hfound : compiled.foundAt compiled.initialStack.top (.between front (text ++ rest)) =
      some (.rule id ⟨front.width, .between (front ++ text) rest, captures⟩)) :
    TakenAs kind front text rest := by
  obtain ⟨rule, label, hrule, hlabel, haccepts⟩ := hlabels
  have hopener := labelOf?_not_opener rule (List.mem_of_getElem? hrule) label hlabel
  obtain ⟨location, pattern, rfl⟩ := labelOf?_eq_some hlabel
  intro run hrun
  refine ⟨[⟨front.width, (front ++ text).width, rootScopes ++ [label], false⟩],
    ⟨front.width, (front ++ text).width, rootScopes ++ [label], false⟩, ?_, ?_, rfl, rfl, haccepts⟩
  · rw [takeAll_found grounded_root hfound, take_single hrule, coverMatch_gap hrun htext _ _ rfl]
    rw [List.filter_nil, List.flatMap_nil, List.append_nil]
    rfl
  · refine unites_single (by simp [rootScopes]) fun opener hmem => ?_
    have hroot : ∀ opener ∈ openerLabels, opener ≠ "source.powerquery" := by decide
    have hlabel : opener ≠ label := fun heq => hopener (heq ▸ hmem)
    simp [ScopedToken.hasScope, rootScopes, compiled, hroot opener hmem, hlabel]

/-! ## Numbers, words and fixed lexemes -/

theorem takenAs_number (hnumber : IsNumber text) (hrest : Follows .atom rest) :
    TakenAs .numericLiteral front text rest := by
  obtain ⟨id, hid, hfound⟩ := @foundAt_number _ front rest text isCode_root hnumber hrest.inNumber
  refine takenAs_single (Item.number hnumber).ne_nil ?_ hfound
  simp only [List.mem_cons, List.not_mem_nil, or_false] at hid
  rcases hid with rfl | rfl | rfl
  · exact ⟨_, _, rfl, rfl, by decide⟩
  · exact ⟨_, _, rfl, rfl, by decide⟩
  · exact ⟨_, _, rfl, rfl, by decide⟩

theorem takenAs_hexNumber (hnumber : IsHexNumber text) (hrest : Follows .atom rest) :
    TakenAs .hexLiteral front text rest :=
  takenAs_single (Item.hexNumber hnumber).ne_nil (labels_of_listed ⟨rfl, rfl⟩)
    (foundAt_hexNumber isCode_root hnumber hrest.inNumber)

set_option maxRecDepth 2000 in
/-- What may stand behind an item is no word character, unless it starts an atom. -/
theorem memAt_wordClass (h : Follows .atom rest) : wordClass.memAt rest.head? = false := by
  cases rest with
  | nil => rfl
  | cons c rest =>
      have hstops : StopsAt isAsciiPart (c :: rest) := h.stopsAt (by decide)
      rw [List.head?_cons, memAt_some, mem_wordClass_ascii (Bond.lt_of_follows (h c rfl))]
      exact hstops c rfl

theorem labels_wordRules : ∀ entry ∈ reservedWords, ∀ rule ∈ wordRules, entry.1 ∈ rule.2 →
    Labels rule.1 entry.2 := by
  have h : ∀ entry ∈ reservedWords, ∀ rule ∈ wordRules, entry.1 ∈ rule.2 →
      (compiled.rules[rule.1]?.bind labelOf?).isSome = true ∧
        compiled.rules[rule.1]?.bind labelOf? = listed? entry.2 := by
    decide
  exact fun entry hentry rule hrule hmem => labels_of_listed (h entry hentry rule hrule hmem)

theorem takenAs_reserved {word : String} (hword : (word, kind) ∈ reservedWords)
    (hfront : wordClass.memAt front.getLast? = false) (hrest : Follows .loose rest) :
    TakenAs kind front word.toList rest := by
  obtain ⟨rule, hrule, hmem, hfound⟩ := foundAt_reserved isCode_root hword hfront
    (memAt_wordClass hrest.loose)
  exact takenAs_single (Item.reserved hword).ne_nil (labels_wordRules _ hword rule hrule hmem)
    hfound

/-- Each fixed lexeme but the brackets is listed for an operator or a word behind a hash sign. -/
theorem fixedLexemes_listed : ∀ entry ∈ fixedLexemes, entry.1 ∉ ["[", "]"] →
    (∃ rule ∈ operatorRules, entry.1 ∈ rule.2) ∨ entry.1 ∉ tightOperators ∧
      ∃ rule ∈ hashRules, ∃ word ∈ rule.2, entry.1.toList = '#' :: word.toList := by
  decide

theorem labels_operatorRules : ∀ entry ∈ fixedLexemes, ∀ rule ∈ operatorRules,
    entry.1 ∈ rule.2 → Labels rule.1 entry.2 := by
  have h : ∀ entry ∈ fixedLexemes, ∀ rule ∈ operatorRules, entry.1 ∈ rule.2 →
      (compiled.rules[rule.1]?.bind labelOf?).isSome = true ∧
        compiled.rules[rule.1]?.bind labelOf? = listed? entry.2 := by
    decide
  exact fun entry hentry rule hrule hmem => labels_of_listed (h entry hentry rule hrule hmem)

theorem labels_hashRules : ∀ entry ∈ fixedLexemes, ∀ rule ∈ hashRules, ∀ word ∈ rule.2,
    entry.1.toList = '#' :: word.toList → Labels rule.1 entry.2 := by
  have h : ∀ entry ∈ fixedLexemes, ∀ rule ∈ hashRules, ∀ word ∈ rule.2,
      entry.1.toList = '#' :: word.toList →
        (compiled.rules[rule.1]?.bind labelOf?).isSome = true ∧
          compiled.rules[rule.1]?.bind labelOf? = listed? entry.2 := by
    decide
  exact fun entry hentry rule hrule word hword htext =>
    labels_of_listed (h entry hentry rule hrule word hword htext)

/-- A fixed lexeme but a bracket is taken by the rule that lists it. -/
theorem takenAs_fixed {word : String} (hword : (word, kind) ∈ fixedLexemes)
    (hbracket : word ∉ ["[", "]"]) (hrest : StopsAt (extensions word.toList).contains rest)
    (hloose : word ∉ tightOperators → Follows .loose rest) :
    TakenAs kind front word.toList rest := by
  have hne := fixedLexemes_ne_nil _ hword
  rcases fixedLexemes_listed _ hword hbracket with
    ⟨rule, hrule, hmem⟩ | ⟨htight, rule, hrule, name, hmem, htext⟩
  · have hat : word = "@" → StopsAt isIdentifierStart rest := by
      rintro rfl
      exact (hloose (by decide)).stopsAt (by decide)
    exact takenAs_single hne (labels_operatorRules _ hword rule hrule hmem)
      (foundAt_operator isCode_root hrule hmem hrest hat)
  · have hlabels := labels_hashRules _ hword rule hrule name hmem htext
    have hclass := memAt_wordClass (hloose htight).loose
    rw [htext] at hne ⊢
    exact takenAs_single hne hlabels (foundAt_hashWord isCode_root hrule hmem hclass)

/-! ## Items of several scopes -/

section Runs

variable {run : TokenRun} {stop : Nat} {scopes : List String}

theorem coverTo_of_le (h : stop ≤ run.stop) : run.coverTo stop scopes = run := if_pos h

theorem coverTo_of_lt (h : run.stop < stop) :
    run.coverTo stop scopes = ⟨run.tokens ++ [⟨run.stop, stop, scopes, false⟩], stop⟩ :=
  if_neg (Nat.not_le.mpr h)

theorem coverTo_gap {stop : Nat} (h : run.stop ≤ stop) (scopes : List String) :
    run.coverTo stop scopes = ⟨run.tokens ++ gap run.stop stop scopes, stop⟩ := by
  rw [coverTo_eq, Nat.max_eq_right h]

variable {start opened closed stop : Nat} {cursor : Cursor}

/-- One capture that is all of the match. -/
theorem coverMatch_identifier (hstart : run.stop = start) (hlt : start < cursor.offset)
    (base : List String) :
    coverMatch ⟨start, cursor, [⟨2, start, cursor.offset⟩]⟩ base
      [⟨1, ["keyword.operator.inclusiveidentifier.powerquery"]⟩, ⟨2, [Label.identifier]⟩] run =
        ⟨run.tokens ++ [⟨start, cursor.offset, base ++ [Label.identifier], false⟩],
          cursor.offset⟩ := by
  subst hstart
  simp [coverMatch, coverCaptures, Match.group?, closeCaptures, Nat.ne_of_lt hlt,
    coverTo_of_le, coverTo_of_lt hlt]

/-- Two captures at the ends of a match, and what stands between them if anything does. -/
theorem coverMatch_ends {found : Match} (hstart : run.stop = start)
    (hopening : found.group? 1 = some (start, opened))
    (hclosing : found.group? 3 = some (closed, found.stop.offset)) (hopened : start < opened)
    (hle : opened ≤ closed) (hstop : closed < found.stop.offset) (base : List String) :
    coverMatch found base
      [⟨1, [Label.quotedIdentifierBegin]⟩, ⟨3, [Label.quotedIdentifierEnd]⟩] run =
        ⟨run.tokens ++ [⟨start, opened, base ++ [Label.quotedIdentifierBegin], false⟩] ++
          gap opened closed base ++
          [⟨closed, found.stop.offset, base ++ [Label.quotedIdentifierEnd], false⟩],
          found.stop.offset⟩ := by
  subst hstart
  simp [coverMatch, coverCaptures, hopening, hclosing, closeCaptures, Nat.ne_of_lt hopened,
    Nat.ne_of_lt hstop, coverTo_of_le, coverTo_of_lt, coverTo_gap, hopened, hle, hstop]

end Runs

theorem takenAs_identifier {segment more : Text} (hsegment : IsSegment segment)
    (hplain : segment ≠ ['_']) (hreserved : ∀ entry ∈ reservedWords, segment ≠ entry.1.toList)
    (hmore : AreSegments more) (hrest : Follows .atom rest) :
    TakenAs .identifier front (segment ++ more) rest := by
  have hlisted : ∀ rule ∈ wordRules, ∀ word ∈ rule.2,
      word = "_" ∨ word ∈ reservedWords.map (·.1) := by
    decide
  have hapart : ∀ rule ∈ wordRules, ∀ word ∈ rule.2, segment ≠ word.toList := by
    rintro rule hrule word hword rfl
    rcases hlisted rule hrule word hword with rfl | hmem
    · exact hplain rfl
    · obtain ⟨entry, hentry, rfl⟩ := List.mem_map.mp hmem
      exact hreserved entry hentry rfl
  have hfound := @foundAt_identifier _ front rest segment more isCode_root hsegment hapart hmore
    hrest.inWord (memAt_wordClass hrest)
  have htext := (Item.identifier hsegment hplain hreserved hmore).ne_nil
  generalize segment ++ more = text at hfound htext ⊢
  have hwidth := front.width_lt_append htext
  have haccepts : accepts .identifier Label.identifier = true := by decide
  have hopener : ∀ label ∈ openerLabels, (rootScopes ++ [Label.identifier]).contains label = false := by
    decide
  intro run hrun
  refine ⟨[⟨front.width, (front ++ text).width, rootScopes ++ [Label.identifier], false⟩],
    ⟨front.width, (front ++ text).width, rootScopes ++ [Label.identifier], false⟩, ?_,
    unites_single (by simp [rootScopes]) hopener, rfl, rfl, haccepts⟩
  have hcover := @coverMatch_identifier ⟨run.tokens ++ gap run.stop front.width rootScopes,
    front.width⟩ front.width (.between (front ++ text) rest) rfl hwidth rootScopes
  rw [takeAll_found grounded_root hfound, take_single rfl, coverTo_gap hrun]
  exact congrArg _ hcover

theorem takenAs_text {content : Text} (hcontent : Quoted content) (hrest : Follows .atom rest) :
    TakenAs .textLiteral front ('"' :: (content ++ ['"'])) rest := by
  have hinner : ∀ token, InText rootScopes token → token.ContinuesText := by
    rintro token ⟨_, hscopes | hscopes⟩
    · rw [ScopedToken.ContinuesText, ScopedToken.hasScope, ScopedToken.hasScope, hscopes]
      decide
    · rw [ScopedToken.ContinuesText, ScopedToken.hasScope, ScopedToken.hasScope, hscopes]
      decide
  have hopener : let scopes := textScopes rootScopes ++ [Label.stringBegin]
      2 ≤ scopes.length ∧ scopes.contains Label.quotedIdentifierBegin = false ∧
        scopes.contains Label.stringBegin = true := by
    decide
  have hcloser : (textScopes rootScopes ++ [Label.stringEnd]).contains Label.stringEnd = true := by
    decide
  intro run hrun
  obtain ⟨inner, hmem, htake⟩ := takeAll_text grounded_root isCode_root hcontent
    hrest.not_quoteNext hrun
  have hline : '"' :: (content ++ ['"']) ++ rest = '"' :: (content ++ '"' :: rest) := by simp
  have hstop : (front ++ '"' :: content ++ ['"']).width =
      (front ++ '"' :: (content ++ ['"'])).width := by
    simp
  have haccepts : accepts .textLiteral Label.string = true := by decide
  rw [hline]
  exact ⟨_, _, htake, unites_string rfl hopener.1 hopener.2.1 hopener.2.2
    (fun token hin => hinner token (hmem token hin)) hcloser, rfl, hstop, haccepts⟩

/-- The two ends of a quoted identifier carry its labels. -/
theorem labels_quotedIdentifier :
    let scopes := rootScopes ++ [Label.identifier]
    (scopes ++ [Label.quotedIdentifierBegin]).contains Label.quotedIdentifierBegin = true ∧
      (scopes ++ [Label.quotedIdentifierEnd]).contains Label.quotedIdentifierEnd = true := by
  decide

/-- A quoted identifier in code is three tokens, or two if nothing stands between its ends. -/
theorem takeAll_quotedIdentifier {run : TokenRun} {content : Text} (hcontent : Quoted content)
    (hrest : EndsQuoted rest) (hrun : run.stop ≤ front.width) :
    let opened := front ++ ['#', '"']
    let closed := opened ++ content
    let scopes := rootScopes ++ [Label.identifier]
    compiled.takeAll (.between front ('#' :: '"' :: (content ++ '"' :: rest)))
        compiled.initialStack run =
      compiled.takeAll (.between (closed ++ ['"']) rest) compiled.initialStack
        ⟨run.tokens ++ gap run.stop front.width rootScopes ++
          ⟨front.width, opened.width, scopes ++ [Label.quotedIdentifierBegin], false⟩ ::
            (gap opened.width closed.width scopes ++
              [⟨closed.width, (closed ++ ['"']).width, scopes ++ [Label.quotedIdentifierEnd],
                false⟩]),
          (closed ++ ['"']).width⟩ := by
  intro opened closed scopes
  have hfound := @foundAt_quotedIdentifier front rest content _ isCode_root hcontent hrest
  have hopened : front.width < opened.width := front.width_lt_append (List.cons_ne_nil _ _)
  have hclosed : opened.width ≤ closed.width :=
    (Nat.le_add_right _ _).trans_eq (Text.width_append opened content).symm
  have hstop : closed.width < (closed ++ ['"']).width :=
    Text.width_lt_append _ (List.cons_ne_nil _ _)
  have hcover := @coverMatch_ends ⟨run.tokens ++ gap run.stop front.width rootScopes, front.width⟩
    front.width opened.width closed.width
    ⟨front.width, .between (closed ++ ['"']) rest, [⟨3, closed.width, (closed ++ ['"']).width⟩,
      ⟨2, opened.width, closed.width⟩, ⟨1, front.width, opened.width⟩]⟩
    rfl rfl rfl hopened hclosed hstop scopes
  rw [takeAll_found grounded_root hfound, take_single rfl, coverTo_gap hrun]
  refine congrArg _ (hcover.trans ?_)
  simp [closed]

theorem takenAs_quotedIdentifier {content : Text} (hcontent : Quoted content) (hne : content ≠ [])
    (hrest : Follows .atom rest) :
    TakenAs .identifier front ('#' :: '"' :: (content ++ ['"'])) rest := by
  have hline : '#' :: '"' :: (content ++ ['"']) ++ rest = '#' :: '"' :: (content ++ '"' :: rest) := by
    simp
  have hbehind : front ++ '#' :: '"' :: (content ++ ['"']) =
      front ++ ['#', '"'] ++ content ++ ['"'] := by
    simp
  have haccepts : accepts .identifier Label.identifier = true := by decide
  have hclosed : (front ++ ['#', '"']).width < (front ++ ['#', '"'] ++ content).width :=
    Text.width_lt_append _ hne
  intro run hrun
  have htake := takeAll_quotedIdentifier hcontent (.single hrest.not_quoteNext) hrun
  dsimp only at htake
  rw [hline, hbehind, htake, gap.eq_1 (front ++ ['#', '"']).width, if_neg (Nat.not_le.mpr hclosed)]
  exact ⟨_, ⟨front.width, _, rootScopes ++ [Label.identifier], true⟩, rfl,
    unites_quotedIdentifier rfl (by simp [rootScopes]) labels_quotedIdentifier.1 rfl
      labels_quotedIdentifier.2, rfl, rfl, haccepts⟩

/-- The grammar takes an item as a whole, whatever may stand behind it. In front of an item that
stands by itself there must be no word. -/
theorem takenAs_item (h : Item bond text kind) (hrest : Follows bond rest)
    (hfront : bond = .loose → wordClass.memAt front.getLast? = false) :
    TakenAs kind front text rest := by
  cases h with
  | identifier hsegment hplain hreserved hmore =>
      exact takenAs_identifier hsegment hplain hreserved hmore hrest
  | number hnumber => exact takenAs_number hnumber hrest
  | hexNumber hnumber => exact takenAs_hexNumber hnumber hrest
  | text hcontent _ => exact takenAs_text hcontent hrest
  | quotedIdentifier hcontent hne _ => exact takenAs_quotedIdentifier hcontent hne hrest
  | reserved hword => exact takenAs_reserved hword (hfront rfl) hrest
  | @tight word _ hword htight =>
      have hbracket : ∀ word ∈ tightOperators, word ∉ ["[", "]"] := by decide
      exact takenAs_fixed hword (hbracket _ htight) (hrest.extensions (extensions_tight _ htight))
        fun hloose => absurd htight hloose
  | @loose word _ hword _ hbracket =>
      have hextensions := extensions_loose (word, kind) hword
      exact takenAs_fixed hword hbracket (hrest.extensions hextensions) fun _ => hrest

/-! ## Lines of items -/

variable {blanks : Text} {previous : Option Bond} {offset : Nat} {tokens : List Lexing.Token}
  {run : TokenRun}

theorem takeAll_blanks (h : AreBlanks blanks) :
    compiled.takeAll (.between front (blanks ++ rest)) compiled.initialStack run =
      compiled.takeAll (.between (front ++ blanks) rest) compiled.initialStack run := by
  induction blanks generalizing front with
  | nil => rw [List.nil_append, List.append_nil]
  | cons c blanks ih =>
      obtain ⟨hc, hblanks⟩ := List.forall_mem_cons.mp h
      have hblank : isBlank c = true := by rcases hc with rfl | rfl <;> rfl
      rw [List.cons_append, takeAll_skip grounded_root (foundAt_blank isCode_root hblank front _),
        ih hblanks]
      simp

/-- A text that is empty or ends in a blank ends in no word. -/
theorem memAt_blanks (h : AreBlanks blanks) (hfront : blanks = [] → front = []) :
    wordClass.memAt (front ++ blanks).getLast? = false := by
  cases hlast : blanks.getLast? with
  | none =>
      obtain rfl := List.getLast?_eq_none_iff.mp hlast
      rw [hfront rfl]
      rfl
  | some c =>
      rw [List.getLast?_append, hlast, Option.some_or, memAt_some]
      rcases h c (List.mem_of_getLast? hlast) with rfl | rfl
      · rw [mem_wordClass_ascii (by decide)]
        rfl
      · rw [mem_wordClass_ascii (by decide)]
        rfl

/-- The unit stands where the token stands, and its label fits the kind. -/
def Fits (unit : ScopedToken) (token : Lexing.Token) : Prop :=
  unit.start = token.start ∧ unit.stop = token.stop ∧ accepts token.kind unit.innermost = true

/-- The grammar takes a line of items to its end and gives one unit for each item. -/
theorem takeAll_items (h : Items previous offset text tokens) (hoffset : front.width = offset)
    (hfront : previous = none → front = []) (hrun : run.stop ≤ front.width) :
    ∃ later stop merged,
      compiled.takeAll (.between front text) compiled.initialStack run =
        (compiled.initialStack, ⟨run.tokens ++ later, stop⟩) ∧
      Unites later merged ∧ List.Forall₂ Fits merged tokens := by
  induction h generalizing front run with
  | @done _ _ blanks hblanks =>
      refine ⟨[], run.stop, [], ?_, .nil, .nil⟩
      have hend := @takeAll_blanks front [] blanks run hblanks
      rw [List.append_nil] at hend
      rw [hend, takeAll_end (foundAt_end isCode_root), List.append_nil]
  | @item previous bond _ blanks text rest kind tokens hblanks htouches hitem hitems ih =>
      subst hoffset
      have hloose : bond = .loose → wordClass.memAt (front ++ blanks).getLast? = false := by
        rintro rfl
        refine memAt_blanks hblanks fun hnil => hfront ?_
        cases previous with
        | none => rfl
        | some neighbour =>
            have hneighbour := htouches hnil neighbour rfl
            cases neighbour <;> cases hneighbour
      have hle : run.stop ≤ (front ++ blanks).width := by
        rw [Text.width_append]
        omega
      obtain ⟨raw, unit, htake, hunites, hstart, hstop, haccepts⟩ :=
        takenAs_item hitem hitems.follows hloose run hle
      obtain ⟨later, stop, merged, hlater, hmerged, hfits⟩ :=
        @ih (front ++ blanks ++ text)
          ⟨run.tokens ++ gap run.stop (front ++ blanks).width rootScopes ++ raw,
            (front ++ blanks ++ text).width⟩
          (by simp) (fun hnone => by cases hnone) (Nat.le_refl _)
      refine ⟨gap run.stop (front ++ blanks).width rootScopes ++ (raw ++ later), stop,
        unit :: merged, ?_, ?_, ?_⟩
      · rw [takeAll_blanks hblanks, htake, hlater]
        simp
      · have hgap : Unites (gap run.stop (front ++ blanks).width rootScopes) [] :=
          unites_blanks fun token hmem => by rw [(mem_gap hmem).2]; rfl
        exact hgap.append (hunites.append hmerged)
      · refine .cons ⟨?_, ?_, haccepts⟩ hfits
        · rw [hstart, Text.width_append]
        · rw [hstop, Text.width_append, Text.width_append, Text.width_append, Nat.add_assoc]

/-- The token of a line that gave none is a blank. -/
theorem unites_finish {merged : List ScopedToken} (h : Unites run.tokens merged)
    {scopes : List String} (hscopes : scopes.length ≤ 1) : Unites (run.finish scopes) merged := by
  unfold TokenRun.finish
  split
  next hempty =>
    rw [List.isEmpty_iff.mp hempty] at h
    cases h.normalize
    exact unites_blanks (by simpa using hscopes)
  next => exact h

/-- Normalizing what the grammar gives for a line of items leaves one unit for each item. -/
theorem normalize_items (h : Items none 0 text tokens) :
    ∃ merged, normalize (compiled.tokenizeLine text).tokens = .ok merged ∧
      List.Forall₂ Fits merged tokens := by
  obtain ⟨later, stop, merged, htake, hunites, hfits⟩ :=
    @takeAll_items [] text none 0 tokens .empty h rfl (fun _ => rfl) (Nat.le_refl _)
  have hgap : Unites (gap stop text.width rootScopes) [] :=
    unites_blanks fun token hmem => by rw [(mem_gap hmem).2]; rfl
  refine ⟨merged, ?_, hfits⟩
  rw [tokenizeLine_initial, tokenizeLine_eq, Cursor.ofLine_eq, htake]
  refine (unites_finish ?_ (Nat.le_refl _)).normalize
  rw [coverTo_eq]
  have hall := hunites.append hgap
  rwa [List.append_nil] at hall

end TokenConcord.Bundled
