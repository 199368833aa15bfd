import Listening.Proofs.Reading

/-!
# Reading back a written query

Every text that `Written` writes for a tree parses back to that tree: in the plain dialect to the
tree itself, and in any dialect to the tree with each term value as the dialect stores it
(`parse_written`). A written text holds no comment opening and stays written when its tabs are
expanded, so what remains is to read a written text, by induction on how it is written.

At each level the reader reads the text and stops right after it, provided it starts after
separators with no keyword character before them (`Start`) and what follows it is one of the
things that can follow there (`Stops`): nothing, a closing parenthesis, or an operator of a looser
chain level. A text written at a chain's level is moreover read as the first operands of that
chain, which goes on past it (`ReadsInChain`): this is how the left operand of a chain of its own
level is read.
-/

namespace Listening.Query

open Listening.Text

/-- The tree a dialect reads for a tree: each term value as the dialect stores it. -/
def Node.storedBy (dialect : Dialect) : Node → Node
  | ⟨kind, value, children⟩ =>
    ⟨kind, if kind = .term then value.map (fun v => dialect.termValue v.toList) else value,
      children.attach.map fun ⟨child, _⟩ => child.storedBy dialect⟩

@[simp] theorem Node.storedBy_term (dialect : Dialect) (value : String) :
    (Node.term value).storedBy dialect = .term (dialect.termValue value.toList) := by
  simp [Node.storedBy, Node.term]

@[simp] theorem Node.storedBy_compound (dialect : Dialect) (kind : Kind) (children : List Node) :
    (Node.compound kind children).storedBy dialect =
      .compound kind (children.map (Node.storedBy dialect)) := by
  simp [Node.storedBy, Node.compound]

/-- The plain dialect stores every written value as it is. -/
theorem Written.storedBy_plain {level : Nat} {tree : Node} {text : List Char}
    (written : Written level tree text) : tree.storedBy .plain = tree := by
  induction written with
  | bare value _ => simp [Dialect.termValue, Dialect.plain]
  | quoted value => simp [Dialect.termValue, Dialect.plain]
  | paren _ _ _ innerSame => exact innerSame
  | not _ _ _ _ operandSame => simp [operandSame]
  | join _ _ _ _ _ _ _ leftSame rightSame => simp [leftSame, rightSame]

/-! ### Where reading starts and stops -/

theorem isSeparator_of_sameLetter {c w : Char} (same : sameLetter c w = true)
    (letter : isSeparator w = false ∧ isSeparator w.toLower = false) : isSeparator c = false := by
  have cases : c = w ∨ c = w.toLower := by simpa [sameLetter] using same
  rcases cases with rfl | rfl
  · exact letter.1
  · exact letter.2

theorem Chain.isSeparator_of_initial {chain : Chain} {c : Char}
    (initial : sameLetter c chain.initial = true) : isSeparator c = false :=
  isSeparator_of_sameLetter initial (by cases chain <;> decide)

/-- A written operator starts with a letter. -/
theorem Chain.Spells.solid {chain : Chain} {op : List Char} (spells : chain.Spells op) :
    ∃ c more, op = c :: more ∧ isSeparator c = false := by
  obtain ⟨c, more, rfl, initial⟩ := spells.initial
  exact ⟨c, more, rfl, Chain.isSeparator_of_initial initial⟩

/-- A written text starts with a character that is not a separator. -/
theorem Written.solid {level : Nat} {tree : Node} {text : List Char}
    (written : Written level tree text) : ∃ c more, text = c :: more ∧ isSeparator c = false := by
  induction written with
  | bare value safe =>
    obtain ⟨c, more, split⟩ := List.exists_cons_of_ne_nil safe.nonempty
    refine ⟨c, more, split, ?_⟩
    have notBlank := (safe.plain c (by rw [split]; exact List.mem_cons_self)).1
    cases separator : isSeparator c
    · rfl
    · rcases isSeparator_cases separator with rfl | rfl | rfl | rfl <;> revert notBlank <;>
        decide +kernel
  | quoted value => exact ⟨'"', _, rfl, by decide⟩
  | paren => exact ⟨'(', _, rfl, by decide⟩
  | not spelled =>
    cases spelled with
    | cons same _ => exact ⟨_, _, rfl, isSeparator_of_sameLetter same (by decide)⟩
  | join _ _ _ _ _ _ _ leftSolid =>
    obtain ⟨c, more, rfl, solid⟩ := leftSolid
    exact ⟨c, _, rfl, solid⟩

/-- Where the reader may start a query: separators before it, and no keyword character before
them. -/
structure Start (lead read : List Char) : Prop where
  separators : ∀ c ∈ lead, isSeparator c = true
  boundary : (lead.reverse ++ read).head?.any isKeywordChar = false

theorem Start.of_gap {gap : List Char} (isGap : IsGap gap) (read : List Char) : Start gap read := by
  refine ⟨isGap.separators, ?_⟩
  obtain ⟨c, more, split⟩ : ∃ c more, gap.reverse = c :: more :=
    List.exists_cons_of_ne_nil (by simpa using isGap.nonempty)
  have member : c ∈ gap := List.mem_reverse.mp (by rw [split]; exact List.mem_cons_self)
  rw [split]
  simpa using isKeywordChar_of_isSeparator (isGap.separators c member)

theorem head_not_separator {c : Char} (solid : isSeparator c = false) (more : List Char) :
    ∀ d, (c :: more).head? = some d → isSeparator d = false := by
  intro d first
  obtain rfl : c = d := Option.some.inj first
  exact solid

/-- From a start, the reader passes the separators to the text. -/
theorem Start.skip {lead read text : List Char} (start : Start lead read)
    (solid : ∃ c more, text = c :: more ∧ isSeparator c = false) (rest : List Char) :
    Cursor.skipSeparators ⟨read, lead ++ (text ++ rest)⟩ =
      ⟨lead.reverse ++ read, text ++ rest⟩ := by
  obtain ⟨c, more, rfl, notSeparator⟩ := solid
  exact Cursor.skipSeparators_append start.separators (head_not_separator notSeparator _)

/-- What may follow a query read at a level, for the reader to stop right after it: nothing,
or a gap and then nothing, a closing parenthesis, or an operator of a chain level not below the
level with a gap after it. -/
def Stops (level : Nat) (rest : List Char) : Prop :=
  rest = [] ∨ ∃ gap more, IsGap gap ∧ rest = gap ++ more ∧
    (more = [] ∨ more.head? = some ')' ∨ ∃ (chain : Chain) (op after others : List Char),
      level ≤ chain.rank ∧ chain.Spells op ∧ IsGap after ∧ more = op ++ (after ++ others))

/-- Separators alone may end a text. -/
theorem Stops.trailing {level : Nat} {trail : List Char}
    (separators : ∀ c ∈ trail, isSeparator c = true) : Stops level trail := by
  rcases trail with _ | ⟨c, more⟩
  · exact Or.inl rfl
  · exact Or.inr ⟨c :: more, [], ⟨List.cons_ne_nil _ _, separators⟩, by simp, .inl rfl⟩

theorem Stops.closing {level : Nat} {gap : List Char} (isGap : IsGap gap) (more : List Char) :
    Stops level (gap ++ ')' :: more) :=
  Or.inr ⟨gap, _, isGap, rfl, .inr (.inl rfl)⟩

theorem Stops.operator {level : Nat} {chain : Chain} {gap op after : List Char}
    (isGap : IsGap gap) (looser : level ≤ chain.rank) (spells : chain.Spells op)
    (afterGap : IsGap after) (others : List Char) :
    Stops level (gap ++ (op ++ (after ++ others))) :=
  Or.inr ⟨gap, _, isGap, rfl,
    .inr (.inr ⟨chain, op, after, others, looser, spells, afterGap, rfl⟩)⟩

theorem Stops.mono {level lower : Nat} {rest : List Char} (stops : Stops level rest)
    (le : lower ≤ level) : Stops lower rest := by
  rcases stops with rfl | ⟨gap, more, isGap, rfl, ending | closing | ⟨chain, op, after, others,
    looser, spells, afterGap, rfl⟩⟩
  · exact Or.inl rfl
  · exact Or.inr ⟨gap, more, isGap, rfl, .inl ending⟩
  · exact Or.inr ⟨gap, more, isGap, rfl, .inr (.inl closing)⟩
  · exact Stops.operator isGap (le_trans le looser) spells afterGap others

/-- What follows a query starts with a separator, if anything follows. -/
theorem Stops.separator {level : Nat} {rest : List Char} (stops : Stops level rest) :
    ∀ c, rest.head? = some c → isSeparator c = true := by
  rcases stops with rfl | ⟨gap, more, isGap, rfl, -⟩
  · simp
  · intro c first
    obtain ⟨s, gapMore, rfl⟩ := List.exists_cons_of_ne_nil isGap.nonempty
    obtain rfl : s = c := Option.some.inj first
    exact isGap.separators s List.mem_cons_self

/-- After a query read at a level, no operator of a chain level below the level is read. -/
theorem Stops.quiet {level : Nat} {rest : List Char} (stops : Stops level rest)
    (read : List Char) (chain : Chain) (below : chain.rank < level) :
    scanOperator chain (Cursor.skipSeparators ⟨read, rest⟩) = none := by
  rcases stops with rfl | ⟨gap, more, isGap, rfl, rfl | closing | ⟨other, op, after, others,
    looser, spells, -, rfl⟩⟩
  · exact scanOperator_nil chain read
  · rw [Cursor.skipSeparators_append isGap.separators (by simp)]
    exact scanOperator_nil chain _
  · obtain ⟨more, rfl⟩ : ∃ others, more = ')' :: others := by
      cases more with
      | nil => cases closing
      | cons c others => exact ⟨others, by rw [Option.some.inj closing]⟩
    rw [Cursor.skipSeparators_append isGap.separators (head_not_separator (by decide) _)]
    exact scanOperator_of_not_initial (by cases chain <;> decide)
  · obtain ⟨c, opMore, rfl, initial⟩ := spells.initial
    have differ : chain ≠ other := by
      rintro rfl
      omega
    rw [List.cons_append, Cursor.skipSeparators_append isGap.separators
      (head_not_separator (Chain.isSeparator_of_initial initial) _)]
    exact scanOperator_of_not_initial (Chain.initial_unique initial differ)

/-! ### Reading by levels -/

/-- The reader, at every level from `level` up to disjunctions, reads `tree` from `text` at a
start and stops right after it, before whatever may follow at that level. -/
def ReadsBack (dialect : Dialect) (level : Nat) (tree : Node) (text : List Char) : Prop :=
  ∀ L, level ≤ L → L ≤ 4 → ∀ {lead rest read : List Char}, Start lead read → Stops L rest →
    readLevel dialect L ⟨read, lead ++ (text ++ rest)⟩ =
      .ok (tree.storedBy dialect, ⟨text.reverse ++ (lead.reverse ++ read), rest⟩)

/-- The reader of the chain at level `level` reads `tree` from `text` as its first operands and
goes on after it. -/
def ReadsInChain (dialect : Dialect) (level : Nat) (tree : Node) (text : List Char) : Prop :=
  ∀ chain : Chain, level = chain.rank + 1 → ∀ {lead rest read : List Char}, Start lead read →
    Stops chain.rank rest →
    readLevel dialect level ⟨read, lead ++ (text ++ rest)⟩ =
      .ok (extendChain' dialect chain (tree.storedBy dialect)
        ⟨text.reverse ++ (lead.reverse ++ read), rest⟩)

/-- Below the chain levels there is no chain to read in. -/
theorem readsInChain_of_le_one {dialect : Dialect} {level : Nat} {tree : Node}
    {text : List Char} (low : level ≤ 1) : ReadsInChain dialect level tree text := by
  intro chain same
  have := chain.rank_pos
  omega

/-- An atom read at every start is read back at every level, when NOT is not read at its
start. -/
theorem readsBack_of_atom {dialect : Dialect} {tree : Node} {text : List Char}
    (solid : ∃ c more, text = c :: more ∧ isSeparator c = false)
    (notKeyword : ∀ {read rest : List Char}, (∀ c, rest.head? = some c → isSeparator c = true) →
      scanKeyword ['N', 'O', 'T'] ⟨read, text ++ rest⟩ = none)
    (atom : ∀ {lead rest read : List Char}, Start lead read →
      (∀ c, rest.head? = some c → isSeparator c = true) →
      forgetAhead (readAtom dialect ⟨read, lead ++ (text ++ rest)⟩) =
        .ok (tree.storedBy dialect, ⟨text.reverse ++ (lead.reverse ++ read), rest⟩)) :
    ReadsBack dialect 0 tree text := by
  intro level _ atMost lead rest read start stops
  refine readLevel_of_atom (atom start stops.separator) ?_ atMost fun chain below =>
    stops.quiet _ chain below
  rw [start.skip solid rest]
  exact notKeyword stops.separator

theorem readsBack_bare (dialect : Dialect) {value : String} (safe : SafeWord value.toList) :
    ReadsBack dialect 0 (.term value) value.toList := by
  have solid := (Written.bare value safe).solid
  refine readsBack_of_atom solid (fun boundary => scanKeyword_not_safeWord safe boundary) ?_
  intro lead rest read start boundary
  rw [readAtom_term (start.skip solid rest) (scanTerm_safeWord dialect safe fun c first =>
    isBareChar_of_isSeparator (boundary c first)), Node.storedBy_term]

theorem readsBack_quoted (dialect : Dialect) (value : String) :
    ReadsBack dialect 0 (.term value) (quote value.toList) := by
  have solid := (Written.quoted value).solid
  refine readsBack_of_atom solid (fun _ => ?_) ?_
  · rw [quote_append]
    exact scanKeyword_not_of_head (by decide) _ _
  · intro lead rest read start _
    rw [readAtom_term (start.skip solid rest) (scanTerm_quote dialect value.toList rest),
      Node.storedBy_term]

theorem readsBack_paren {dialect : Dialect} {level : Nat} {tree : Node}
    {text opening closing : List Char} (inner : ReadsBack dialect level tree text)
    (atMost : level ≤ 4) (afterOpen : IsGap opening) (beforeClose : IsGap closing) :
    ReadsBack dialect 0 tree ('(' :: opening ++ text ++ closing ++ [')']) := by
  have solid : ∃ c more, '(' :: opening ++ text ++ closing ++ [')'] = c :: more ∧
      isSeparator c = false := ⟨'(', _, rfl, by decide⟩
  refine readsBack_of_atom solid (fun _ => scanKeyword_not_of_head (by decide) _ _) ?_
  intro lead rest read start _
  have opened : Cursor.skipSeparators
      ⟨read, lead ++ (('(' :: opening ++ text ++ closing ++ [')']) ++ rest)⟩ =
        ⟨lead.reverse ++ read, '(' :: (opening ++ (text ++ (closing ++ ')' :: rest)))⟩ := by
    rw [start.skip solid rest]
    simp
  -- inside the parentheses a disjunction chain is read, and stops at the closing one
  have body := inner 4 atMost le_rfl (Start.of_gap afterOpen ('(' :: (lead.reverse ++ read)))
    (Stops.closing beforeClose rest)
  have closed : Cursor.skipSeparators
      ⟨text.reverse ++ (opening.reverse ++ '(' :: (lead.reverse ++ read)), closing ++ ')' :: rest⟩ =
        ⟨closing.reverse ++ (text.reverse ++ (opening.reverse ++ '(' :: (lead.reverse ++ read))),
          ')' :: rest⟩ :=
    Cursor.skipSeparators_append beforeClose.separators (head_not_separator (by decide) _)
  rw [readAtom_paren opened body (by rw [closed]), closed,
    @Cursor.moveTo_append ⟨_, ')' :: rest⟩ [')'] rest rfl]
  simp

theorem readsBack_not {dialect : Dialect} {level : Nat} {tree : Node}
    {keyword gap text : List Char} (spelled : Spelled ['N', 'O', 'T'] keyword) (apart : IsGap gap)
    (operand : ReadsBack dialect level tree text) (tight : level ≤ 1) :
    ReadsBack dialect 1 (.compound .not [tree]) (keyword ++ gap ++ text) := by
  intro L atLeast atMost lead rest read start stops
  have solid : ∃ c more, keyword ++ gap ++ text = c :: more ∧ isSeparator c = false := by
    cases spelled with
    | cons same _ => exact ⟨_, _, rfl, isSeparator_of_sameLetter same (by decide)⟩
  have skipped : Cursor.skipSeparators ⟨read, lead ++ (keyword ++ gap ++ text ++ rest)⟩ =
      ⟨lead.reverse ++ read, keyword ++ (gap ++ (text ++ rest))⟩ := by
    rw [start.skip solid rest]
    simp
  have scanned := scanKeyword_spelled spelled (List.cons_ne_nil _ _) start.boundary
    (apart.head_not_keyword (text ++ rest))
  have inner := operand 1 tight (by decide)
    (Start.of_gap apart (keyword.reverse ++ (lead.reverse ++ read))) (stops.mono atLeast)
  have negation : readLevel dialect 1 ⟨read, lead ++ (keyword ++ gap ++ text ++ rest)⟩ =
      .ok ((Node.compound .not [tree]).storedBy dialect,
        ⟨(keyword ++ gap ++ text).reverse ++ (lead.reverse ++ read), rest⟩) := by
    show forgetAhead (readNegation dialect _) = _
    rw [readNegation_not skipped scanned inner]
    simp
  exact readLevel_climb negation le_rfl atLeast atMost fun chain _ below =>
    stops.quiet _ chain below

/-- A chain of two operands is read as the first operands of its chain: the left one read as
the start of the chain, or below the chain's level, then the operator and the right one. -/
theorem readsInChain_join {dialect : Dialect} {chain : Chain} {leftLevel rightLevel : Nat}
    {left right : Node} {leftText op rightText before after : List Char}
    (leftReads : ReadsBack dialect leftLevel left leftText)
    (leftInChain : ReadsInChain dialect leftLevel left leftText)
    (leftFits : leftLevel ≤ chain.rank + 1) (spells : chain.Spells op)
    (gapBefore : IsGap before) (gapAfter : IsGap after)
    (rightReads : ReadsBack dialect rightLevel right rightText)
    (rightFits : rightLevel ≤ chain.rank) :
    ReadsInChain dialect (chain.rank + 1) (.compound chain.builds [left, right])
      (leftText ++ before ++ op ++ after ++ rightText) := by
  intro other sameRank lead rest read start stops
  obtain rfl : chain = other := Chain.rank_injective (by omega)
  have operatorNext : Stops chain.rank (before ++ (op ++ (after ++ (rightText ++ rest)))) :=
    Stops.operator gapBefore le_rfl spells gapAfter _
  have first : readLevel dialect (chain.rank + 1)
      ⟨read, lead ++ (leftText ++ (before ++ (op ++ (after ++ (rightText ++ rest)))))⟩ =
        .ok (extendChain' dialect chain (left.storedBy dialect)
          ⟨leftText.reverse ++ (lead.reverse ++ read), before ++ (op ++ (after ++ (rightText ++ rest)))⟩) := by
    rcases Nat.lt_or_eq_of_le leftFits with tighter | same
    · exact readLevel_chain_of_operand
        (leftReads chain.rank (by omega) (by have := chain.rank_le; omega) start operatorNext)
    · subst same
      exact leftInChain chain rfl start operatorNext
  have skipped := (Start.of_gap gapBefore (leftText.reverse ++ (lead.reverse ++ read))).skip
    spells.solid (after ++ (rightText ++ rest))
  have operator := scanOperator_spells spells gapAfter
    (Start.of_gap gapBefore (leftText.reverse ++ (lead.reverse ++ read))).boundary (rightText ++ rest)
  have second := rightReads chain.rank rightFits (Nat.le_succ_of_le chain.rank_le)
    (Start.of_gap gapAfter (op.reverse ++ (before.reverse ++ (leftText.reverse ++
      (lead.reverse ++ read))))) stops
  simp only [List.append_assoc]
  rw [first, extendChain_step skipped operator second]
  simp

/-- A text at a chain's level that is read in the chain is read back at its level and above. -/
theorem readsBack_of_readsInChain {dialect : Dialect} {chain : Chain} {tree : Node}
    {text : List Char} (inChain : ReadsInChain dialect (chain.rank + 1) tree text) :
    ReadsBack dialect (chain.rank + 1) tree text := by
  intro level atLeast atMost lead rest read start stops
  have first := inChain chain rfl start (stops.mono (by omega))
  rw [extendChain_stop (stops.quiet _ chain (by omega))] at first
  exact readLevel_climb first (by omega) atLeast atMost fun other _ below =>
    stops.quiet _ other below

/-- Every written text is read back at its level, and at a chain's level as the first operands
of the chain. -/
theorem Written.readsBack {level : Nat} {tree : Node} {text : List Char}
    (written : Written level tree text) (dialect : Dialect) :
    ReadsBack dialect level tree text ∧ ReadsInChain dialect level tree text := by
  induction written with
  | bare value safe => exact ⟨readsBack_bare dialect safe, readsInChain_of_le_one (by decide)⟩
  | quoted value => exact ⟨readsBack_quoted dialect value, readsInChain_of_le_one (by decide)⟩
  | paren inner afterOpen beforeClose innerReads =>
    exact ⟨readsBack_paren innerReads.1 inner.level_le afterOpen beforeClose,
      readsInChain_of_le_one (by decide)⟩
  | not spelled apart _ tight operandReads =>
    exact ⟨readsBack_not spelled apart operandReads.1 tight, readsInChain_of_le_one le_rfl⟩
  | join _ leftFits spells gapBefore gapAfter _ rightFits leftReads rightReads =>
    have inChain := readsInChain_join leftReads.1 leftReads.2 leftFits spells gapBefore gapAfter
      rightReads.1 rightFits
    exact ⟨readsBack_of_readsInChain inChain, inChain⟩

/-! ### Parsing -/

theorem readAll_of_reads {dialect : Dialect} {source : List Char} {node : Node}
    {read trail : List Char}
    (reads : forgetAhead (readChain dialect .disj ⟨[], source⟩) = .ok (node, ⟨read, trail⟩))
    (trailing : ∀ c ∈ trail, isSeparator c = true) :
    readAll dialect source = .ok node := by
  have ended : (Cursor.skipSeparators ⟨read, trail⟩).rest = [] := by
    rw [← List.append_nil trail, Cursor.skipSeparators_append trailing (by simp)]
  unfold readAll
  split
  · rename_i position failed
    rw [failed] at reads
    cases reads
  · rename_i node' after _ found
    rw [found] at reads
    simp only [forgetAhead, Except.ok.injEq, Prod.mk.injEq] at reads
    obtain ⟨rfl, rfl⟩ := reads
    simp [ended]

/-- A written text between separators is read whole to its tree, each term value as the dialect
stores it. -/
theorem readAll_written {level : Nat} {tree : Node} {text lead trail : List Char}
    (written : Written level tree text) (leading : ∀ c ∈ lead, isSeparator c = true)
    (trailing : ∀ c ∈ trail, isSeparator c = true) (dialect : Dialect) :
    readAll dialect (lead ++ (text ++ trail)) = .ok (tree.storedBy dialect) := by
  have start : Start lead [] := by
    refine ⟨leading, ?_⟩
    cases split : lead.reverse with
    | nil => simp
    | cons c more =>
      have member : c ∈ lead := List.mem_reverse.mp (by rw [split]; exact List.mem_cons_self)
      simpa using isKeywordChar_of_isSeparator (leading c member)
  exact readAll_of_reads ((written.readsBack dialect).1 4 written.level_le le_rfl start
    (Stops.trailing trailing)) trailing

/-- A written text between separators parses to its tree in every dialect, each term value as
the dialect stores it: it holds no comment, and expanding tabs keeps it written. -/
theorem parse_written_in (dialect : Dialect) {level : Nat} {tree : Node}
    {text lead trail : List Char} (written : Written level tree text)
    (leading : ∀ c ∈ lead, isSeparator c = true) (trailing : ∀ c ∈ trail, isSeparator c = true) :
    parse dialect (String.ofList (lead ++ text ++ trail)) = .ok (tree.storedBy dialect) := by
  have escaped : LtEscaped (lead ++ text ++ trail) :=
    ((LtEscaped.of_separators leading).append written.ltEscaped).append
      (.of_separators trailing)
  obtain ⟨column, split⟩ := expandTabsFrom_append 8 0 (lead ++ text) trail
  obtain ⟨column', split'⟩ := expandTabsFrom_append 8 0 lead text
  rw [parse, prepare, String.toList_ofList, stripComments_of_isChain escaped.1, expandTabs, split,
    split', List.append_assoc]
  exact readAll_written (written.expandTabsFrom (by decide) column')
    (separators_expandTabsFrom leading 8 0) (separators_expandTabsFrom trailing 8 column) dialect

/-- A written query, with separators before and after it, parses back to its tree: exactly in
the plain dialect, and with each term value as the braced dialect stores it (lower-cased unless
braced) in that dialect. -/
theorem parse_written {level : Nat} {tree : Node} {text lead trail : List Char}
    (written : Written level tree text) (leading : ∀ c ∈ lead, isSeparator c = true)
    (trailing : ∀ c ∈ trail, isSeparator c = true) :
    parse .plain (String.ofList (lead ++ text ++ trail)) = .ok tree ∧
      parse .bracedLower (String.ofList (lead ++ text ++ trail)) =
        .ok (tree.storedBy .bracedLower) := by
  refine ⟨?_, parse_written_in .bracedLower written leading trailing⟩
  rw [parse_written_in .plain written leading trailing, written.storedBy_plain]

/-- `not a AND ( "x\<y" OR b )`, with a tab after NOT, a line feed after the opening
parenthesis and a line feed at the end, parses back: a lower-case NOT, a quoted less-than sign,
and a disjunction in parentheses under a conjunction. -/
theorem parse_written_mixed :
    parse .plain "not\ta AND (\n\"x\\<y\" OR b )\n" =
        .ok (.compound .and [.compound .not [.term "a"], .compound .or [.term "x<y", .term "b"]]) ∧
      parse .bracedLower "not\ta AND (\n\"x\\<y\" OR b )\n" =
        .ok ((Node.compound .and [.compound .not [.term "a"],
          .compound .or [.term "x<y", .term "b"]]).storedBy .bracedLower) := by
  have space : IsGap [' '] := ⟨by simp, by simp [isSeparator]⟩
  have tab : IsGap ['\t'] := ⟨by simp, by simp [isSeparator]⟩
  have lineFeed : IsGap ['\n'] := ⟨by simp, by simp [isSeparator]⟩
  have letter : ∀ c ∈ "a".toList ++ "b".toList,
      isBlank c = false ∧ c ≠ '(' ∧ c ≠ ')' ∧ c ≠ '"' ∧ c ≠ '{' ∧ c ≠ '<' := by
    intro c member
    simp at member
    rcases member with rfl | rfl <;> decide +kernel
  have safeA : SafeWord "a".toList :=
    ⟨by simp, fun c member => letter c (List.mem_append_left _ member), by simp⟩
  have safeB : SafeWord "b".toList :=
    ⟨by simp, fun c member => letter c (List.mem_append_right _ member), by simp⟩
  have lowerNot : Spelled ['N', 'O', 'T'] ['n', 'o', 't'] :=
    .cons (by decide) (.cons (by decide) (.cons (by decide) .nil))
  have upperOr : Chain.disj.Spells ['O', 'R'] := .cons (by decide) (.cons (by decide) .nil)
  have upperAnd : Chain.conj.Spells ['A', 'N', 'D'] :=
    .cons (by decide) (.cons (by decide) (.cons (by decide) .nil))
  have negation := Written.not lowerNot tab (.bare "a" safeA) (by decide)
  have choice := Written.join (.quoted "x<y") (by decide) upperOr space space (.bare "b" safeB)
    (by decide)
  have query := Written.join negation (by decide) upperAnd space space
    (.paren choice lineFeed space) (by decide)
  have text : "not\ta AND (\n\"x\\<y\" OR b )\n" = String.ofList ([] ++
      (['n', 'o', 't'] ++ ['\t'] ++ "a".toList ++ [' '] ++ ['A', 'N', 'D'] ++ [' '] ++
        ('(' :: ['\n'] ++ (quote "x<y".toList ++ [' '] ++ ['O', 'R'] ++ [' '] ++ "b".toList) ++
          [' '] ++ [')'])) ++ ['\n']) := by
    decide
  rw [text]
  exact parse_written query (by simp) (by simp [isSeparator])

end Listening.Query
