import Listening.Proofs.Lexemes

/-!
# The reader, step by step

The reading functions are mutually recursive and carry proofs that the cursor moves on. This
module forgets those proofs (`forgetAhead`) and states what each function does in one step: an
atom is a term or a query between parentheses, a negation is NOT before a negation or else an
atom, a chain reads an operand and then extends while an operator and an operand follow.

`readLevel` names the reading function of each precedence level. Reading at a level reads what
a lower level reads, when no operator of the chain levels in between follows (`readLevel_climb`).

Each step is also one equation with all its branches (`readAtom_eq`, `readNegation_eq`,
`extendChain_eq`), and reading never looks back: what is left after a read is a suffix of what
was there (`reads_suffix`).
-/

namespace Listening.Query

open Listening.Text

/-- What a reading step returns, without the proof that the cursor moved on. -/
def forgetAhead {cursor : Cursor} : Except Nat (Node × Ahead cursor) → Except Nat (Node × Cursor)
  | .ok (node, next) => .ok (node, next.1)
  | .error position => .error position

/-- A term at the cursor is read as a term node, up to its end. -/
theorem readAtom_term {dialect : Dialect} {cursor : Cursor} {before token raw rest : List Char}
    (skipped : cursor.skipSeparators = ⟨before, token ++ rest⟩)
    (scanned : (scanTerm dialect (token ++ rest)).map (fun r => (r.1, r.2.1)) = some (raw, rest)) :
    forgetAhead (readAtom dialect cursor) =
      .ok (.term (dialect.termValue raw), ⟨token.reverse ++ before, rest⟩) := by
  have moved : cursor.skipSeparators.moveTo rest = ⟨token.reverse ++ before, rest⟩ := by
    rw [skipped]
    exact Cursor.moveTo_append _ rfl
  have restEq : cursor.skipSeparators.rest = token ++ rest := by rw [skipped]
  rw [← restEq] at scanned
  rw [readAtom]
  simp only
  split
  · rename_i raw' after' _ found
    rw [found] at scanned
    simp only [Option.map_some, Option.some.injEq, Prod.mk.injEq] at scanned
    obtain ⟨rfl, rfl⟩ := scanned
    simp only [forgetAhead, moved]
  · rename_i missing
    rw [missing] at scanned
    cases scanned

/-- An opening parenthesis opens a disjunction chain, which a closing parenthesis must end. -/
theorem readAtom_paren {dialect : Dialect} {cursor : Cursor} {before inner : List Char}
    (opening : cursor.skipSeparators = ⟨before, '(' :: inner⟩) {node : Node} {last : Cursor}
    (body : forgetAhead (readChain dialect .disj ⟨'(' :: before, inner⟩) = .ok (node, last))
    {more : List Char} (closing : last.skipSeparators.rest = ')' :: more) :
    forgetAhead (readAtom dialect cursor) = .ok (node, last.skipSeparators.moveTo more) := by
  have moved : cursor.skipSeparators.moveTo inner = ⟨'(' :: before, inner⟩ := by
    rw [opening]
    exact @Cursor.moveTo_append ⟨before, '(' :: inner⟩ ['('] inner rfl
  have noTerm : scanTerm dialect cursor.skipSeparators.rest = none := by
    rw [opening]
    exact scanTerm_paren dialect inner
  rw [← moved] at body
  rw [readAtom]
  simp only
  split
  · rename_i _ _ _ found
    rw [noTerm] at found
    cases found
  · split
    · rename_i inner' opening'
      rw [opening] at opening'
      obtain rfl := (List.cons.inj opening').2
      split
      · rename_i node' after' _ read'
        rw [read'] at body
        cases body
        split
        · rename_i more' closing'
          rw [closing] at closing'
          obtain rfl := (List.cons.inj closing').2
          rfl
        · rename_i notClosing
          exact absurd closing (notClosing more)
      · rename_i position failed
        rw [failed] at body
        cases body
    · rename_i notOpening
      rw [opening] at notOpening
      exact absurd rfl (notOpening inner)

/-- NOT before a readable negation is read as the negation of it. -/
theorem readNegation_not {dialect : Dialect} {cursor : Cursor} {before keyword after : List Char}
    (skipped : cursor.skipSeparators = ⟨before, keyword ++ after⟩)
    (scanned : (scanKeyword ['N', 'O', 'T'] ⟨before, keyword ++ after⟩).map Subtype.val =
      some after)
    {node : Node} {last : Cursor}
    (operand : forgetAhead (readNegation dialect ⟨keyword.reverse ++ before, after⟩) =
      .ok (node, last)) :
    forgetAhead (readNegation dialect cursor) = .ok (.compound .not [node], last) := by
  have moved : cursor.skipSeparators.moveTo after = ⟨keyword.reverse ++ before, after⟩ := by
    rw [skipped]
    exact Cursor.moveTo_append _ rfl
  rw [← moved] at operand
  rw [← skipped] at scanned
  rw [readNegation]
  split
  · rename_i after' _ found
    rw [found] at scanned
    simp only [Option.map_some, Option.some.injEq] at scanned
    subst scanned
    split
    · rename_i node' next' _ read'
      rw [read'] at operand
      cases operand
      rfl
    · rename_i position failed
      rw [failed] at operand
      cases operand
  · rename_i missing
    rw [missing] at scanned
    cases scanned

/-- Where NOT is not read, a negation is an atom. -/
theorem readNegation_atom {dialect : Dialect} {cursor : Cursor}
    (noKeyword : scanKeyword ['N', 'O', 'T'] cursor.skipSeparators = none) :
    forgetAhead (readNegation dialect cursor) = forgetAhead (readAtom dialect cursor) := by
  rw [readNegation]
  split
  · rename_i _ _ found
    rw [noKeyword] at found
    cases found
  · rfl

/-! ### Precedence levels -/

/-- The reading function of a precedence level: an atom at 0, a negation at 1, and at `n + 1`
the chain of rank `n`, up to disjunctions at 4. -/
def readLevel (dialect : Dialect) : Nat → Cursor → Except Nat (Node × Cursor)
  | 0, cursor => forgetAhead (readAtom dialect cursor)
  | 1, cursor => forgetAhead (readNegation dialect cursor)
  | 2, cursor => forgetAhead (readChain dialect .near cursor)
  | 3, cursor => forgetAhead (readChain dialect .conj cursor)
  | _ + 4, cursor => forgetAhead (readChain dialect .disj cursor)

theorem readLevel_chain (dialect : Dialect) (chain : Chain) (cursor : Cursor) :
    readLevel dialect (chain.rank + 1) cursor = forgetAhead (readChain dialect chain cursor) := by
  cases chain <;> rfl

/-- The operand of a chain is read at the level of the chain's rank. -/
theorem forgetAhead_readOperand (dialect : Dialect) (chain : Chain) (cursor : Cursor) :
    forgetAhead (readOperand dialect chain cursor) = readLevel dialect chain.rank cursor := by
  cases chain <;> rw [readOperand] <;> rfl

/-- The node a chain extension folds to and the cursor after it. -/
def extendChain' (dialect : Dialect) (chain : Chain) (acc : Node) (cursor : Cursor) :
    Node × Cursor :=
  let result := extendChain dialect chain acc cursor
  (result.1, result.2.1)

/-- A chain extension stops where its operator is not read. -/
theorem extendChain_stop {dialect : Dialect} {chain : Chain} {acc : Node} {cursor : Cursor}
    (noOperator : scanOperator chain cursor.skipSeparators = none) :
    extendChain' dialect chain acc cursor = (acc, cursor) := by
  unfold extendChain'
  rw [extendChain]
  simp only
  split
  · rename_i _ _ found
    rw [noOperator] at found
    cases found
  · rfl

/-- An operator and a readable operand extend the fold of a chain on the right. -/
theorem extendChain_step {dialect : Dialect} {chain : Chain} {acc : Node} {cursor : Cursor}
    {before op after : List Char} (skipped : cursor.skipSeparators = ⟨before, op ++ after⟩)
    (operator : (scanOperator chain ⟨before, op ++ after⟩).map Subtype.val = some after)
    {node : Node} {next : Cursor}
    (operand : readLevel dialect chain.rank ⟨op.reverse ++ before, after⟩ = .ok (node, next)) :
    extendChain' dialect chain acc cursor =
      extendChain' dialect chain (.compound chain.builds [acc, node]) next := by
  have moved : cursor.skipSeparators.moveTo after = ⟨op.reverse ++ before, after⟩ := by
    rw [skipped]
    exact Cursor.moveTo_append _ rfl
  rw [← forgetAhead_readOperand, ← moved] at operand
  rw [← skipped] at operator
  unfold extendChain'
  rw [extendChain]
  simp only
  split
  · rename_i after' _ found
    rw [found] at operator
    simp only [Option.map_some, Option.some.injEq] at operator
    subst operator
    split
    · rename_i node' next' _ read'
      rw [read'] at operand
      cases operand
      rfl
    · rename_i position failed
      rw [failed] at operand
      cases operand
  · rename_i missing
    rw [missing] at operator
    cases operator

/-- A chain reads its first operand and extends from there. -/
theorem readChain_eq (dialect : Dialect) (chain : Chain) (cursor : Cursor) :
    forgetAhead (readChain dialect chain cursor) =
      match forgetAhead (readOperand dialect chain cursor) with
      | .ok (node, next) => .ok (extendChain' dialect chain node next)
      | .error position => .error position := by
  rw [readChain]
  split
  · rename_i node next _ read
    rw [read]
    rfl
  · rename_i position failed
    rw [failed]
    rfl

/-- A chain whose first operand reads at the level below it extends from where the operand
ends. -/
theorem readLevel_chain_of_operand {dialect : Dialect} {chain : Chain} {cursor next : Cursor}
    {node : Node} (operand : readLevel dialect chain.rank cursor = .ok (node, next)) :
    readLevel dialect (chain.rank + 1) cursor = .ok (extendChain' dialect chain node next) := by
  rw [readLevel_chain, readChain_eq, forgetAhead_readOperand, operand]

theorem exists_rank_eq : ∀ {rank : Nat}, 1 ≤ rank → rank ≤ 3 → ∃ chain : Chain, chain.rank = rank
  | 1, _, _ => ⟨.near, rfl⟩
  | 2, _, _ => ⟨.conj, rfl⟩
  | 3, _, _ => ⟨.disj, rfl⟩
  | 0, atLeast, _ => absurd atLeast (by decide)
  | _ + 4, _, atMost => absurd atMost (by omega)

/-- Reading at a higher level gives what a lower level from negations up reads, when no operator
of the chain levels in between follows. -/
theorem readLevel_climb {dialect : Dialect} {cursor next : Cursor} {node : Node} {low : Nat}
    (reads : readLevel dialect low cursor = .ok (node, next)) (atLeast : 1 ≤ low) {high : Nat}
    (le : low ≤ high) (atMost : high ≤ 4)
    (quiet : ∀ chain : Chain, low ≤ chain.rank → chain.rank < high →
      scanOperator chain next.skipSeparators = none) :
    readLevel dialect high cursor = .ok (node, next) := by
  induction high, le using Nat.le_induction with
  | base => exact reads
  | succ high lowLe below =>
    obtain ⟨chain, rfl⟩ := exists_rank_eq (le_trans atLeast lowLe) (by omega)
    have operand := below (by omega) fun other lowOther otherBelow =>
      quiet other lowOther (by omega)
    rw [readLevel_chain_of_operand operand,
      extendChain_stop (quiet chain lowLe (Nat.lt_succ_self _))]

/-- An atom is read at every level, when it is not NOT and no chain operator follows it. -/
theorem readLevel_of_atom {dialect : Dialect} {cursor next : Cursor} {node : Node}
    (reads : forgetAhead (readAtom dialect cursor) = .ok (node, next))
    (noKeyword : scanKeyword ['N', 'O', 'T'] cursor.skipSeparators = none) {level : Nat}
    (atMost : level ≤ 4)
    (quiet : ∀ chain : Chain, chain.rank < level → scanOperator chain next.skipSeparators = none) :
    readLevel dialect level cursor = .ok (node, next) := by
  rcases Nat.eq_zero_or_pos level with rfl | positive
  · exact reads
  · have negation : readLevel dialect 1 cursor = .ok (node, next) := by
      show forgetAhead (readNegation dialect cursor) = _
      rw [readNegation_atom noKeyword, reads]
    exact readLevel_climb negation le_rfl positive atMost fun chain _ below => quiet chain below

/-! ### Each reader in one step

The equations of the reading functions match on results that carry proofs of progress. Over
`forgetAhead` the same steps read as plain matches, on which later proofs can case-split. -/

/-- Closing the parentheses around a query read up to a cursor: a closing parenthesis must follow
after separators. -/
def closeParen : Node × Cursor → Except Nat (Node × Cursor)
  | (node, after) =>
    match after.skipSeparators.rest with
    | ')' :: rest => .ok (node, after.skipSeparators.moveTo rest)
    | _ => .error after.skipSeparators.position

/-- An atom is a term after the separators, or else a query between parentheses. -/
theorem readAtom_eq (dialect : Dialect) (cursor : Cursor) :
    forgetAhead (readAtom dialect cursor) =
      match (scanTerm dialect cursor.skipSeparators.rest).map (fun r => (r.1, r.2.1)),
        cursor.skipSeparators.rest with
      | some (raw, after), _ =>
        .ok (.term (dialect.termValue raw), cursor.skipSeparators.moveTo after)
      | none, '(' :: inner =>
        (forgetAhead (readChain dialect .disj (cursor.skipSeparators.moveTo inner))).bind closeParen
      | none, _ => .error cursor.skipSeparators.position := by
  rw [readAtom]
  split
  · rename_i raw after _ found
    simp [found, forgetAhead]
  · rename_i missing
    simp only [missing, Option.map_none]
    split
    · rename_i inner opening
      simp only [opening]
      split
      · rename_i node after _ inside
        simp only [inside, Except.bind, closeParen]
        split
        · rename_i rest closed
          simp [forgetAhead, closed]
        · simp only [forgetAhead]
      · rename_i position failed
        simp only [failed, forgetAhead, Except.bind]
    · rename_i notOpening
      split
      · contradiction
      · rename_i inner _ opening
        exact absurd opening (notOpening inner)
      · rfl

/-- A negation is NOT before a negation, or else an atom. -/
theorem readNegation_eq (dialect : Dialect) (cursor : Cursor) :
    forgetAhead (readNegation dialect cursor) =
      match (scanKeyword ['N', 'O', 'T'] cursor.skipSeparators).map Subtype.val with
      | some after =>
        match forgetAhead (readNegation dialect (cursor.skipSeparators.moveTo after)) with
        | .ok (node, next) => .ok (.compound .not [node], next)
        | .error _ => forgetAhead (readAtom dialect cursor)
      | none => forgetAhead (readAtom dialect cursor) := by
  rw [readNegation]
  split
  · rename_i after _ found
    simp only [found, Option.map_some]
    split
    · rename_i node next _ operand
      simp [operand, forgetAhead]
    · rename_i position failed
      simp [failed, forgetAhead]
  · rename_i missing
    simp [missing]

/-- A chain goes on while its operator and an operand follow. -/
theorem extendChain_eq (dialect : Dialect) (chain : Chain) (acc : Node) (cursor : Cursor) :
    extendChain' dialect chain acc cursor =
      match (scanOperator chain cursor.skipSeparators).map Subtype.val with
      | some after =>
        match readLevel dialect chain.rank (cursor.skipSeparators.moveTo after) with
        | .ok (node, next) => extendChain' dialect chain (.compound chain.builds [acc, node]) next
        | .error _ => (acc, cursor)
      | none => (acc, cursor) := by
  unfold extendChain'
  rw [extendChain]
  split
  · rename_i after _ found
    simp only [found, Option.map_some, ← forgetAhead_readOperand]
    split
    · rename_i node next _ operand
      simp only [operand, forgetAhead]
    · rename_i position failed
      simp [failed, forgetAhead]
  · rename_i missing
    simp [missing]

/-! ### Reading consumes a prefix

Every scanner and every reader leaves a suffix of the text it was given, so a property of the
text that suffixes keep (such as lacking some character) holds wherever reading goes. -/

theorem scanBare_rest_suffix {text raw : List Char} {rest : Shorter text}
    (scanned : scanBare text = some (raw, rest)) : rest.1 <:+ text := by
  unfold scanBare at scanned
  split at scanned
  · cases scanned
  · split at scanned
    · cases scanned
      exact (List.dropWhile_suffix _).trans (List.suffix_cons _ _)
    · cases scanned

theorem scanQuotedBody_rest_suffix {text : List Char} :
    ∀ {value : List Char} {rest : Shorter text}, scanQuotedBody text = some (value, rest) →
      rest.1 <:+ text := by
  fun_induction scanQuotedBody text with
  | case1 | case3 | case5 | case6 | case8 => intro _ _ scanned; cases scanned
  | case2 rest => intro _ _ scanned; cases scanned; exact List.suffix_cons _ _
  | case4 c rest _ value after h found inside =>
    intro _ _ scanned
    cases scanned
    exact (inside found).trans ((List.suffix_cons _ _).trans (List.suffix_cons _ _))
  | case7 c rest _ _ _ value after h found inside =>
    intro _ _ scanned
    cases scanned
    exact (inside found).trans (List.suffix_cons _ _)

theorem scanQuoted_rest_suffix {text value : List Char} {rest : Shorter text}
    (scanned : scanQuoted text = some (value, rest)) : rest.1 <:+ text := by
  unfold scanQuoted at scanned
  split at scanned
  · split at scanned
    · rename_i body _ _ found
      cases scanned
      exact (scanQuotedBody_rest_suffix found).trans (List.suffix_cons _ _)
    · cases scanned
  · cases scanned

theorem scanBraced_rest_suffix {text value : List Char} {rest : Shorter text}
    (scanned : scanBraced text = some (value, rest)) : rest.1 <:+ text := by
  unfold scanBraced at scanned
  split at scanned
  · split at scanned
    · rename_i inside after closing
      cases scanned
      have dropped : '}' :: after <:+ inside := closing ▸ List.dropWhile_suffix _
      exact ((List.suffix_cons _ _).trans dropped).trans (List.suffix_cons _ _)
    · cases scanned
  · cases scanned

theorem scanTerm_rest_suffix {dialect : Dialect} {text raw : List Char} {rest : Shorter text}
    (scanned : scanTerm dialect text = some (raw, rest)) : rest.1 <:+ text := by
  unfold scanTerm at scanned
  simp only [Option.orElse_eq_orElse, Option.orElse_eq_or, Option.or_eq_some_iff,
    Option.ite_none_right_eq_some] at scanned
  rcases scanned with ⟨-, braced⟩ | ⟨-, quoted | ⟨-, bare⟩⟩
  · exact scanBraced_rest_suffix braced
  · exact scanQuoted_rest_suffix quoted
  · exact scanBare_rest_suffix bare

theorem scanLetters_rest_suffix {word text : List Char} :
    ∀ {rest : Shorter text}, scanLetters word text = some rest → rest.1 <:+ text := by
  fun_induction scanLetters word text with
  | case1 | case3 | case5 | case6 | case7 => intro _ scanned; cases scanned
  | case2 w c rest _ => intro _ scanned; cases scanned; exact List.suffix_cons _ _
  | case4 w more c rest _ _ after _ found inside =>
    intro _ scanned
    cases scanned
    exact (inside found).trans (List.suffix_cons _ _)

theorem scanKeyword_rest_suffix {word : List Char} {cursor : Cursor} {rest : Shorter cursor.rest}
    (scanned : scanKeyword word cursor = some rest) : rest.1 <:+ cursor.rest := by
  unfold scanKeyword at scanned
  split at scanned
  · rename_i after _ found
    simp only at scanned
    split at scanned
    · cases scanned
    · cases scanned
      exact scanLetters_rest_suffix found
  · cases scanned

theorem scanNear_rest_suffix {text : List Char} {rest : Shorter text}
    (scanned : scanNear text = some rest) : rest.1 <:+ text := by
  unfold scanNear at scanned
  split at scanned
  · rename_i after _ found
    have letters := scanLetters_rest_suffix found
    simp only at scanned
    split at scanned
    · rename_i d more _
      split at scanned
      · split at scanned
        · rename_i f last _ dropped _
          have kept : f :: last <:+ d :: more :=
            dropped ▸ (List.dropWhile_suffix _).trans (List.suffix_cons _ _)
          split at scanned <;> cases scanned
          · exact ((List.suffix_cons _ _).trans kept).trans letters
          · exact kept.trans letters
        · cases scanned
          exact List.nil_suffix
      · cases scanned
    · cases scanned
  · cases scanned

theorem scanOperator_rest_suffix {chain : Chain} {cursor : Cursor} {rest : Shorter cursor.rest}
    (scanned : scanOperator chain cursor = some rest) : rest.1 <:+ cursor.rest := by
  cases chain with
  | near => exact scanNear_rest_suffix scanned
  | conj => exact scanKeyword_rest_suffix scanned
  | disj => exact scanKeyword_rest_suffix scanned

theorem forgetAhead_shorter {cursor : Cursor} {result : Except Nat (Node × Ahead cursor)}
    {node : Node} {next : Cursor} (read : forgetAhead result = .ok (node, next)) :
    next.rest.length < cursor.rest.length := by
  unfold forgetAhead at read
  split at read
  · rename_i _ next'
    cases read
    exact next'.2
  · cases read

theorem readLevel_shorter {dialect : Dialect} {level : Nat} {cursor next : Cursor} {node : Node}
    (read : readLevel dialect level cursor = .ok (node, next)) :
    next.rest.length < cursor.rest.length := by
  unfold readLevel at read
  split at read <;> exact forgetAhead_shorter read

theorem closeParen_rest_suffix {node : Node} {after : Cursor} {result : Node × Cursor}
    (closed : closeParen (node, after) = .ok result) : result.2.rest <:+ after.rest := by
  simp only [closeParen] at closed
  split at closed
  · rename_i rest closing
    cases closed
    have skipped : after.skipSeparators.rest <:+ after.rest := List.dropWhile_suffix _
    rw [closing] at skipped
    exact (List.suffix_cons _ _).trans skipped
  · cases closed

/-- What a scanner leaves after the separators at a cursor is a suffix of the cursor's text,
strictly shorter. -/
theorem skipScan_rest_suffix {cursor : Cursor}
    {scanned : Option (Shorter cursor.skipSeparators.rest)} {after : List Char}
    (found : scanned.map Subtype.val = some after)
    (suffix : ∀ rest, scanned = some rest → rest.1 <:+ cursor.skipSeparators.rest) :
    after <:+ cursor.rest ∧ after.length < cursor.rest.length := by
  obtain ⟨rest, isScanned, rfl⟩ := Option.map_eq_some_iff.mp found
  have skipped : cursor.skipSeparators.rest <:+ cursor.rest := List.dropWhile_suffix _
  exact ⟨(suffix rest isScanned).trans skipped,
    Nat.lt_of_lt_of_le rest.2 cursor.skipSeparators_length_le⟩

/-- Reading consumes a prefix of the text: what is left after a read at any level, or after a
chain is extended, is a suffix of what was there. -/
theorem reads_suffix (dialect : Dialect) (cursor : Cursor) :
    (∀ level node next, readLevel dialect level cursor = .ok (node, next) →
      next.rest <:+ cursor.rest) ∧
    (∀ chain acc, (extendChain' dialect chain acc cursor).2.rest <:+ cursor.rest) := by
  -- On the length of the text left: a call at the same cursor goes down a level, every other
  -- call reads something first.
  induction h : cursor.rest.length using Nat.strong_induction_on generalizing cursor with
  | _ length shorter =>
  subst h
  have skipped : cursor.skipSeparators.rest <:+ cursor.rest := List.dropWhile_suffix _
  have atom : ∀ node next, readLevel dialect 0 cursor = .ok (node, next) →
      next.rest <:+ cursor.rest := by
    intro node next read
    rw [readLevel, readAtom_eq] at read
    split at read
    · rename_i raw after found
      cases read
      obtain ⟨⟨raw', rest⟩, isScanned, same⟩ := Option.map_eq_some_iff.mp found
      cases same
      exact (scanTerm_rest_suffix isScanned).trans skipped
    · rename_i inner _ opening
      have innerSuffix : inner <:+ cursor.rest := by
        rw [opening] at skipped
        exact (List.suffix_cons _ _).trans skipped
      have innerShorter : inner.length < cursor.rest.length := by
        have bound := cursor.skipSeparators_length_le
        rw [opening, List.length_cons] at bound
        omega
      cases inside : forgetAhead (readChain dialect .disj (cursor.skipSeparators.moveTo inner)) with
      | error position => rw [inside] at read; cases read
      | ok body =>
        rw [inside] at read
        have closing := closeParen_rest_suffix read
        have bodySuffix := (shorter inner.length innerShorter
          (cursor.skipSeparators.moveTo inner) rfl).1 4 body.1 body.2 inside
        exact closing.trans (bodySuffix.trans innerSuffix)
    · cases read
  have negation : ∀ node next, readLevel dialect 1 cursor = .ok (node, next) →
      next.rest <:+ cursor.rest := by
    intro node next read
    rw [readLevel, readNegation_eq] at read
    split at read
    · rename_i after found
      obtain ⟨afterSuffix, afterShorter⟩ :=
        skipScan_rest_suffix found fun _ => scanKeyword_rest_suffix
      split at read
      · rename_i inside
        cases read
        exact ((shorter after.length afterShorter _ rfl).1 1 _ _ inside).trans afterSuffix
      · exact atom node next read
    · exact atom node next read
  have chainStep : ∀ chain : Chain, (∀ node next, readLevel dialect chain.rank cursor =
      .ok (node, next) → next.rest <:+ cursor.rest) →
      ∀ node next, readLevel dialect (chain.rank + 1) cursor = .ok (node, next) →
        next.rest <:+ cursor.rest := by
    intro chain operandSuffix node next read
    rw [readLevel_chain, readChain_eq, forgetAhead_readOperand] at read
    split at read
    · rename_i first middle operand
      cases read
      have extended :=
        (shorter middle.rest.length (readLevel_shorter operand) middle rfl).2 chain first
      exact extended.trans (operandSuffix first middle operand)
    · cases read
  refine ⟨fun level => ?_, fun chain acc => ?_⟩
  · match level with
    | 0 => exact atom
    | 1 => exact negation
    | 2 => exact chainStep .near negation
    | 3 => exact chainStep .conj (chainStep .near negation)
    | _ + 4 => exact chainStep .disj (chainStep .conj (chainStep .near negation))
  · rw [extendChain_eq]
    split
    · rename_i after found
      obtain ⟨afterSuffix, afterShorter⟩ :=
        skipScan_rest_suffix found fun _ => scanOperator_rest_suffix
      split
      · rename_i node next operand
        have nextSuffix := (shorter after.length afterShorter _ rfl).1 chain.rank node next operand
        have nextShorter : next.rest.length < cursor.rest.length :=
          Nat.lt_trans (readLevel_shorter operand) afterShorter
        exact ((shorter _ nextShorter next rfl).2 chain _).trans (nextSuffix.trans afterSuffix)
      · exact List.suffix_refl _
    · exact List.suffix_refl _

end Listening.Query
