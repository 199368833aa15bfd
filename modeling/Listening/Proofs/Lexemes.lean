import Listening.Proofs.Rendering

/-!
# Scanning written tokens

Each scanner of the reader, given a token as `Written` writes it and followed by what may follow
it there, reads exactly that token: a safe word as a bare word (`scanTerm_safeWord`), a quoted
literal back to its value (`scanTerm_quote`), a keyword or operator in any letter case up to the
gap after it (`scanKeyword_spelled`, `scanOperator_spells`). And each scanner fails where a token
of another kind starts: NOT on an atom (`scanKeyword_not_atom`), the operator of one chain level
on the operator of another, on a closing parenthesis and at the end of the text.
-/

namespace Listening.Query

open Listening.Text

theorem Cursor.moveTo_append (cursor : Cursor) {text rest : List Char}
    (split : cursor.rest = text ++ rest) :
    cursor.moveTo rest = ⟨text.reverse ++ cursor.read, rest⟩ := by
  obtain ⟨read, whole⟩ := cursor
  simp only at split
  subst split
  simp [Cursor.moveTo]

/-- Passing the separators before a text that does not start with one moves the cursor over
them. -/
theorem Cursor.skipSeparators_append {read lead text : List Char}
    (separators : ∀ c ∈ lead, isSeparator c = true)
    (solid : ∀ c, text.head? = some c → isSeparator c = false) :
    Cursor.skipSeparators ⟨read, lead ++ text⟩ = ⟨lead.reverse ++ read, text⟩ := by
  have dropped : (lead ++ text).dropWhile isSeparator = text := by
    rw [List.dropWhile_append_of_pos separators]
    cases text with
    | nil => rfl
    | cons c more => simp [solid c rfl]
  unfold Cursor.skipSeparators
  rw [dropped]
  exact Cursor.moveTo_append _ rfl

/-! ### Letters and keywords -/

/-- A spelling of a word is read whole, whatever follows it. -/
theorem scanLetters_spelled {word text : List Char} (spelled : Spelled word text)
    (nonempty : word ≠ []) (rest : List Char) :
    (scanLetters word (text ++ rest)).map Subtype.val = some rest := by
  induction spelled with
  | nil => exact absurd rfl nonempty
  | @cons c w text word same restSpelled restScans =>
    cases word with
    | nil =>
      cases restSpelled
      simp [scanLetters, same]
    | cons next others =>
      have scanned := restScans (List.cons_ne_nil _ _)
      rw [List.cons_append, scanLetters.eq_3 _ _ _ _ (List.cons_ne_nil _ _), if_pos same]
      split
      · rename_i after bound found
        rw [found] at scanned
        simpa using scanned
      · rename_i missing
        rw [missing] at scanned
        cases scanned

theorem scanLetters_of_not_sameLetter {w c : Char} (unlike : sameLetter c w = false)
    (word rest : List Char) : scanLetters (w :: word) (c :: rest) = none := by
  cases word with
  | nil => simp [scanLetters, unlike]
  | cons next others => rw [scanLetters.eq_3 _ _ _ _ (List.cons_ne_nil _ _), if_neg (by simp [unlike])]

/-- A keyword spelled at the cursor, with no keyword character on either side, is read up to its
end. -/
theorem scanKeyword_spelled {word text : List Char} (spelled : Spelled word text)
    (nonempty : word ≠ []) {read rest : List Char}
    (before : read.head?.any isKeywordChar = false)
    (after : rest.head?.any isKeywordChar = false) :
    (scanKeyword word ⟨read, text ++ rest⟩).map Subtype.val = some rest := by
  have scanned := scanLetters_spelled spelled nonempty rest
  unfold scanKeyword
  split
  · rename_i after' bound found
    rw [found] at scanned
    simp only [Option.map_some, Option.some.injEq] at scanned
    subst scanned
    simp [Cursor.previous, before, after]
  · rename_i missing
    rw [missing] at scanned
    cases scanned

theorem scanKeyword_of_scanLetters {word : List Char} {cursor : Cursor}
    (missing : scanLetters word cursor.rest = none) : scanKeyword word cursor = none := by
  unfold scanKeyword
  rw [missing]

/-! ### Operators -/

/-- A written proximity operator is read up to the gap after it. -/
theorem scanNear_spelled {op gap : List Char} (spelled : NearSpelling op) (isGap : IsGap gap)
    (more : List Char) : (scanNear (op ++ gap ++ more)).map Subtype.val = some (gap ++ more) := by
  obtain ⟨head, digits, tail, spelledHead, someDigits, allDigits, tailForm, rfl⟩ := spelled
  obtain ⟨d, ds, rfl⟩ := List.exists_cons_of_ne_nil someDigits
  obtain ⟨s, gapMore, rfl⟩ := List.exists_cons_of_ne_nil isGap.nonempty
  have letters := scanLetters_spelled spelledHead (List.cons_ne_nil _ _)
    (d :: (ds ++ tail ++ s :: gapMore ++ more))
  have separator : isSeparator s = true := isGap.separators s List.mem_cons_self
  have notDigit : ∀ c, (c = 'f' ∨ c = 'F' ∨ isSeparator c = true) → isDecimalDigit c = false := by
    rintro c (rfl | rfl | separator)
    · decide +kernel
    · decide +kernel
    · rcases isSeparator_cases separator with rfl | rfl | rfl | rfl <;> decide +kernel
  have dropped : (ds ++ tail ++ s :: gapMore ++ more).dropWhile isDecimalDigit =
      tail ++ s :: gapMore ++ more := by
    rw [List.append_assoc, List.append_assoc,
      List.dropWhile_append_of_pos fun c member => allDigits c (List.mem_cons_of_mem _ member)]
    rcases tailForm with rfl | rfl | rfl
    · simp [notDigit s (.inr (.inr separator))]
    · simp [notDigit 'f' (.inl rfl)]
    · simp [notDigit 'F' (.inr (.inl rfl))]
  have shape : head ++ d :: ds ++ tail ++ s :: gapMore ++ more =
      head ++ d :: (ds ++ tail ++ s :: gapMore ++ more) := by simp
  rw [shape]
  unfold scanNear
  split
  · rename_i after bound found
    rw [found] at letters
    simp only [Option.map_some, Option.some.injEq] at letters
    subst letters
    simp only [allDigits d List.mem_cons_self, if_true]
    split
    · rename_i _ _ f last _ dropForm _
      rw [dropped] at dropForm
      rcases tailForm with rfl | rfl | rfl
      · simp only [List.nil_append, List.cons_append, List.cons.injEq] at dropForm
        obtain ⟨rfl, rfl⟩ := dropForm
        rcases isSeparator_cases separator with rfl | rfl | rfl | rfl <;> simp
      · simp only [List.cons_append, List.nil_append, List.cons.injEq] at dropForm
        obtain ⟨rfl, rfl⟩ := dropForm
        simp
      · simp only [List.cons_append, List.nil_append, List.cons.injEq] at dropForm
        obtain ⟨rfl, rfl⟩ := dropForm
        simp
    · rename_i _ _ _ dropForm _
      rw [dropped] at dropForm
      simp at dropForm
  · rename_i missing
    rw [missing] at letters
    cases letters

theorem isKeywordChar_of_isSeparator {c : Char} (separator : isSeparator c = true) :
    isKeywordChar c = false := by
  rcases isSeparator_cases separator with rfl | rfl | rfl | rfl <;> decide

theorem isBareChar_of_isSeparator {c : Char} (separator : isSeparator c = true) :
    isBareChar c = false := by
  rcases isSeparator_cases separator with rfl | rfl | rfl | rfl <;> decide +kernel

/-- No keyword character starts a gap. -/
theorem IsGap.head_not_keyword {gap : List Char} (isGap : IsGap gap) (more : List Char) :
    (gap ++ more).head?.any isKeywordChar = false := by
  obtain ⟨s, gapMore, rfl⟩ := List.exists_cons_of_ne_nil isGap.nonempty
  simpa using isKeywordChar_of_isSeparator (isGap.separators s List.mem_cons_self)

/-- The letter an operator of a chain level starts with. -/
def Chain.initial : Chain → Char
  | .near => 'N'
  | .conj => 'A'
  | .disj => 'O'

/-- A written operator starts with its chain level's letter. -/
theorem Chain.Spells.initial {chain : Chain} {op : List Char} (spells : chain.Spells op) :
    ∃ c more, op = c :: more ∧ sameLetter c chain.initial = true := by
  cases chain with
  | near =>
    obtain ⟨head, _, _, spelledHead, -, -, -, rfl⟩ := spells
    cases spelledHead with
    | cons same _ => exact ⟨_, _, by rw [List.cons_append, List.cons_append], same⟩
  | conj => cases spells with | cons same _ => exact ⟨_, _, rfl, same⟩
  | disj => cases spells with | cons same _ => exact ⟨_, _, rfl, same⟩

/-- The letters of the three chain levels differ in every letter case. -/
theorem Chain.initial_unique {chain other : Chain} {c : Char}
    (same : sameLetter c chain.initial = true) (differ : other ≠ chain) :
    sameLetter c other.initial = false := by
  have cases : c = chain.initial ∨ c = chain.initial.toLower := by simpa [sameLetter] using same
  rcases cases with rfl | rfl <;> cases chain <;> cases other <;>
    first | exact absurd rfl differ | decide

/-- The operator of a chain level is not read where a character other than its letter stands. -/
theorem scanOperator_of_not_initial {chain : Chain} {read more : List Char} {c : Char}
    (unlike : sameLetter c chain.initial = false) : scanOperator chain ⟨read, c :: more⟩ = none := by
  cases chain with
  | near =>
    simp only [scanOperator, scanNear, Chain.initial] at unlike ⊢
    rw [scanLetters_of_not_sameLetter unlike]
  | conj => exact scanKeyword_of_scanLetters (scanLetters_of_not_sameLetter unlike _ _)
  | disj => exact scanKeyword_of_scanLetters (scanLetters_of_not_sameLetter unlike _ _)

theorem scanOperator_nil (chain : Chain) (read : List Char) :
    scanOperator chain ⟨read, []⟩ = none := by
  cases chain <;> rfl

/-- A written operator, after a character that is no keyword character and before a gap, is read
up to the gap. -/
theorem scanOperator_spells {chain : Chain} {op gap : List Char} (spells : chain.Spells op)
    (isGap : IsGap gap) {read : List Char} (before : read.head?.any isKeywordChar = false)
    (more : List Char) :
    (scanOperator chain ⟨read, op ++ (gap ++ more)⟩).map Subtype.val = some (gap ++ more) := by
  cases chain with
  | near =>
    rw [← List.append_assoc]
    exact scanNear_spelled spells isGap more
  | conj => exact scanKeyword_spelled spells (List.cons_ne_nil _ _) before (isGap.head_not_keyword more)
  | disj => exact scanKeyword_spelled spells (List.cons_ne_nil _ _) before (isGap.head_not_keyword more)

/-! ### Terms -/

theorem scanTerm_of_not_brace (dialect : Dialect) {c : Char} (notBrace : c ≠ '{')
    (more : List Char) :
    scanTerm dialect (c :: more) = (scanQuoted (c :: more) <|> scanBare (c :: more)) := by
  unfold scanTerm
  cases dialect.braced <;> simp [scanBraced, notBrace]

/-- A safe word followed by a character that cannot stand in a bare word is read whole as a bare
word. -/
theorem scanTerm_safeWord (dialect : Dialect) {word rest : List Char} (safe : SafeWord word)
    (boundary : ∀ c, rest.head? = some c → isBareChar c = false) :
    (scanTerm dialect (word ++ rest)).map (fun r => (r.1, r.2.1)) = some (word, rest) := by
  obtain ⟨c, more, rfl⟩ := List.exists_cons_of_ne_nil safe.nonempty
  have bare : ∀ d ∈ c :: more, isBareChar d = true := fun d member => by
    obtain ⟨notBlank, notOpen, notClose, notQuote, -, -⟩ := safe.plain d member
    simp [isBareChar, notBlank, notOpen, notClose, notQuote]
  obtain ⟨-, -, -, notQuote, notBrace, -⟩ := safe.plain c List.mem_cons_self
  have stop : rest.takeWhile isBareChar = [] ∧ rest.dropWhile isBareChar = rest := by
    cases rest with
    | nil => exact ⟨rfl, rfl⟩
    | cons d others => simp [boundary d rfl]
  have inWord : ∀ d ∈ more, isBareChar d = true := fun d member =>
    bare d (List.mem_cons_of_mem _ member)
  rw [List.cons_append, scanTerm_of_not_brace dialect notBrace]
  simp [scanQuoted, notQuote, scanBare, bare c List.mem_cons_self,
    List.takeWhile_append_of_pos inWord, List.dropWhile_append_of_pos inWord, stop]

theorem scanQuotedBody_escapedPair {x : Char} (notBreak : x ≠ '\n') (more : List Char) :
    (scanQuotedBody ('\\' :: x :: more)).map (fun r => (r.1, r.2.1)) =
      (scanQuotedBody more).map (fun r => (unescape x :: r.1, r.2.1)) := by
  rw [scanQuotedBody.eq_3, if_neg notBreak]
  split <;> rename_i found <;> simp [found]

theorem scanQuotedBody_plain {c : Char} (notQuote : c ≠ '"') (notBackslash : c ≠ '\\')
    (notBreak : c ≠ '\n') (notReturn : c ≠ '\r') (more : List Char) :
    (scanQuotedBody (c :: more)).map (fun r => (r.1, r.2.1)) =
      (scanQuotedBody more).map (fun r => (c :: r.1, r.2.1)) := by
  rw [scanQuotedBody.eq_4 _ _ notQuote (fun _ _ same _ => notBackslash same),
    if_neg (by simp [notBackslash, notBreak, notReturn])]
  split <;> rename_i found <;> simp [found]

theorem escapeChar_of_plain {c : Char} (notBackslash : c ≠ '\\') (notQuote : c ≠ '"')
    (notTab : c ≠ '\t') (notBreak : c ≠ '\n') (notReturn : c ≠ '\r') (notLt : c ≠ '<') :
    escapeChar c = [c] := by
  unfold escapeChar
  split <;> simp_all

/-- Each escaped character of a quoted literal is read back as itself. -/
theorem scanQuotedBody_escapeChar (c : Char) (more : List Char) :
    (scanQuotedBody (escapeChar c ++ more)).map (fun r => (r.1, r.2.1)) =
      (scanQuotedBody more).map (fun r => (c :: r.1, r.2.1)) := by
  by_cases backslash : c = '\\'
  · subst backslash
    exact scanQuotedBody_escapedPair (by decide) more
  by_cases quote : c = '"'
  · subst quote
    exact scanQuotedBody_escapedPair (by decide) more
  by_cases tab : c = '\t'
  · subst tab
    exact scanQuotedBody_escapedPair (by decide) more
  by_cases lineFeed : c = '\n'
  · subst lineFeed
    exact scanQuotedBody_escapedPair (by decide) more
  by_cases carriageReturn : c = '\r'
  · subst carriageReturn
    exact scanQuotedBody_escapedPair (by decide) more
  by_cases lessThan : c = '<'
  · subst lessThan
    exact scanQuotedBody_escapedPair (by decide) more
  rw [escapeChar_of_plain backslash quote tab lineFeed carriageReturn lessThan,
    List.singleton_append]
  exact scanQuotedBody_plain quote backslash lineFeed carriageReturn more

/-- The inside of a quoted literal is read back to the value, up to the closing quote. -/
theorem scanQuotedBody_escaped (value rest : List Char) :
    (scanQuotedBody (value.flatMap escapeChar ++ '"' :: rest)).map (fun r => (r.1, r.2.1)) =
      some (value, rest) := by
  induction value with
  | nil =>
    rw [List.flatMap_nil, List.nil_append, scanQuotedBody.eq_2]
    rfl
  | cons c more moreScans =>
    rw [List.flatMap_cons, List.append_assoc, scanQuotedBody_escapeChar]
    rcases found : scanQuotedBody (more.flatMap escapeChar ++ '"' :: rest) with _ | ⟨v, a, bound⟩
    · rw [found] at moreScans
      cases moreScans
    · rw [found] at moreScans
      simp only [Option.map_some, Option.some.injEq, Prod.mk.injEq] at moreScans ⊢
      exact ⟨by rw [moreScans.1], moreScans.2⟩

theorem quote_append (value rest : List Char) :
    quote value ++ rest = '"' :: (value.flatMap escapeChar ++ '"' :: rest) := by
  simp [quote]

/-- A quoted literal is read back to its value, whatever follows it. -/
theorem scanTerm_quote (dialect : Dialect) (value rest : List Char) :
    (scanTerm dialect (quote value ++ rest)).map (fun r => (r.1, r.2.1)) = some (value, rest) := by
  have body := scanQuotedBody_escaped value rest
  rw [quote_append, scanTerm_of_not_brace dialect (by decide), scanQuoted.eq_1]
  split
  · rename_i v a bound found
    rw [found] at body
    simpa using body
  · rename_i missing
    rw [missing] at body
    cases body

theorem scanTerm_paren (dialect : Dialect) (more : List Char) :
    scanTerm dialect ('(' :: more) = none := by
  rw [scanTerm_of_not_brace dialect (by decide)]
  simp [scanQuoted, scanBare, isBareChar]

/-! ### NOT on an atom -/

theorem sameLetter_of_isSeparator {c : Char} (separator : isSeparator c = true) (w : Char)
    (letter : w = 'N' ∨ w = 'O' ∨ w = 'T') : sameLetter c w = false := by
  rcases isSeparator_cases separator with rfl | rfl | rfl | rfl <;>
    rcases letter with rfl | rfl | rfl <;> decide

theorem scanKeyword_not_of_head {c : Char} (unlike : sameLetter c 'N' = false)
    (read more : List Char) : scanKeyword ['N', 'O', 'T'] ⟨read, c :: more⟩ = none :=
  scanKeyword_of_scanLetters (scanLetters_of_not_sameLetter unlike _ _)

/-- A safe word, followed by a separator or by nothing, is not read as NOT: either its letters
differ from N, O, T, or it ends before them, or a keyword character follows them. -/
theorem scanKeyword_not_safeWord {word rest read : List Char} (safe : SafeWord word)
    (boundary : ∀ c, rest.head? = some c → isSeparator c = true) :
    scanKeyword ['N', 'O', 'T'] ⟨read, word ++ rest⟩ = none := by
  have restUnlike : ∀ w, (w = 'N' ∨ w = 'O' ∨ w = 'T') → ∀ c more, rest = c :: more →
      sameLetter c w = false := by
    rintro w letter c more rfl
    exact sameLetter_of_isSeparator (boundary c rfl) w letter
  rcases word with _ | ⟨w1, _ | ⟨w2, _ | ⟨w3, more⟩⟩⟩
  · exact absurd rfl safe.nonempty
  · rcases rest with _ | ⟨c, others⟩
    · simp [scanKeyword, scanLetters]
    · simp [scanKeyword, scanLetters, restUnlike 'O' (by simp) c others rfl]
  · rcases rest with _ | ⟨c, others⟩
    · simp [scanKeyword, scanLetters]
    · simp [scanKeyword, scanLetters, restUnlike 'T' (by simp) c others rfl]
  · by_cases allSame : sameLetter w1 'N' = true ∧ sameLetter w2 'O' = true ∧ sameLetter w3 'T' = true
    · obtain ⟨n, o, t⟩ := allSame
      obtain ⟨next, others, rfl, keyword⟩ := safe.notKeyword w1 w2 w3 more rfl n o t
      simp [scanKeyword, scanLetters, n, o, t, keyword]
    · simp only [not_and] at allSame
      simp only [scanKeyword, scanLetters, List.cons_append]
      by_cases n : sameLetter w1 'N' = true <;> by_cases o : sameLetter w2 'O' = true <;>
        simp_all

end Listening.Query
