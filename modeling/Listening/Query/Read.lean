import Listening.Query.Node
import Listening.Query.Lexeme
import Listening.Text.Case

/-!
# Reading a query

A query is read by operator precedence. From the tightest to the loosest binding:

* an atom: a term, or a whole query between parentheses;
* a negation: NOT before a negation, else an atom (a NOT with nothing readable after it is the
  bare word NOT);
* a proximity chain: negations joined by NEAR operators, read as conjunctions;
* a conjunction chain: proximity chains joined by AND;
* a disjunction chain: conjunction chains joined by OR.

A chain folds to the left, so `a AND b AND c` is the conjunction of `a AND b` and `c`. A chain
goes on while an operator and a following operand can be read; a pair that cannot is left for
the level above. A keyword in an operand position is read as a bare word.

Every step returns the cursor after what it read, strictly further on, so reading needs no
fuel. A failed step reports the position where it stopped: for an atom, the position after
separators, or the failure inside its parentheses.
-/

namespace Listening.Query

open Listening.Text

/-- The variant of the query language being read. -/
structure Dialect where
  /-- Braced terms are read whole, before quoted phrases and bare words. -/
  braced : Bool
  /-- Term values are lower-cased, except those that start with an opening brace and end with
  a closing one. -/
  lowerCase : Bool

/-- The plain dialect: no braced terms, values as written. -/
def Dialect.plain : Dialect := ⟨false, false⟩

/-- The braced dialect: braced terms kept verbatim, every other value lower-cased. -/
def Dialect.bracedLower : Dialect := ⟨true, true⟩

/-- The value that a dialect stores for a term read as `raw`. -/
def Dialect.termValue (dialect : Dialect) (raw : List Char) : String :=
  let text := String.ofList raw
  if dialect.lowerCase && !(raw.head? = some '{' && raw.getLast? = some '}') then lower text
  else text

/-- The chain levels of the precedence ladder, from the tightest. -/
inductive Chain where
  /-- Negations joined by proximity operators. -/
  | near
  /-- Proximity chains joined by AND. -/
  | conj
  /-- Conjunction chains joined by OR. -/
  | disj

namespace Chain

/-- The height of a chain level among the chain levels. -/
def rank : Chain → Nat
  | near => 1
  | conj => 2
  | disj => 3

/-- The kind of node that a chain level builds. -/
def builds : Chain → Kind
  | disj => .or
  | _ => .and

end Chain

/-- A cursor strictly further on than `cursor`. -/
abbrev Ahead (cursor : Cursor) := { next : Cursor // next.rest.length < cursor.rest.length }

/-- A cursor not behind `cursor`. -/
abbrev NotBehind (cursor : Cursor) := { next : Cursor // next.rest.length ≤ cursor.rest.length }

/-- Reads the operator of a chain level at the cursor. -/
def scanOperator (chain : Chain) (cursor : Cursor) : Option (Shorter cursor.rest) :=
  match chain with
  | .near => scanNear cursor.rest
  | .conj => scanKeyword ['A', 'N', 'D'] cursor
  | .disj => scanKeyword ['O', 'R'] cursor

/-- Reads a term: a braced term (when the dialect has them), a quoted phrase or a bare word. -/
def scanTerm (dialect : Dialect) (text : List Char) : Option (List Char × Shorter text) :=
  (if dialect.braced then scanBraced text else none) <|> scanQuoted text <|> scanBare text

/-- A cursor ahead of where a keyword read from the skipped separators ends is ahead of the
cursor the separators were skipped from. -/
theorem lt_of_ahead_moveTo {cursor start next : Cursor} {after : List Char}
    (hs : start.rest.length ≤ cursor.rest.length) (h : after.length < start.rest.length)
    (hn : next.rest.length < (start.moveTo after).rest.length) :
    next.rest.length < cursor.rest.length := by
  simp only [Cursor.moveTo_rest] at hn
  omega

mutual

/-- Reads an atom: a term, or a query between parentheses. -/
def readAtom (dialect : Dialect) (cursor : Cursor) : Except Nat (Node × Ahead cursor) :=
  let start := cursor.skipSeparators
  have hs : start.rest.length ≤ cursor.rest.length := cursor.skipSeparators_length_le
  match scanTerm dialect start.rest with
  | some (raw, ⟨after, h⟩) =>
    .ok (.term (dialect.termValue raw), ⟨start.moveTo after, by simp only [Cursor.moveTo_rest]; omega⟩)
  | none =>
    match hp : start.rest with
    | '(' :: inner =>
      have hi : inner.length < cursor.rest.length := by
        rw [hp] at hs
        simp only [List.length_cons] at hs
        omega
      match readChain dialect .disj (start.moveTo inner) with
      | .ok (node, ⟨after, h⟩) =>
        let closing := after.skipSeparators
        have hc : closing.rest.length ≤ after.rest.length := after.skipSeparators_length_le
        match hq : closing.rest with
        | ')' :: rest =>
          .ok (node, ⟨closing.moveTo rest, by
            simp only [Cursor.moveTo_rest] at h ⊢
            rw [hq] at hc
            simp only [List.length_cons] at hc
            omega⟩)
        | _ => .error closing.position
      | .error position => .error position
    | _ => .error start.position
termination_by (cursor.rest.length, 0)

/-- Reads a negation: NOT before a negation, or else an atom. -/
def readNegation (dialect : Dialect) (cursor : Cursor) : Except Nat (Node × Ahead cursor) :=
  let start := cursor.skipSeparators
  have hs : start.rest.length ≤ cursor.rest.length := cursor.skipSeparators_length_le
  match scanKeyword ['N', 'O', 'T'] start with
  | some ⟨after, h⟩ =>
    match readNegation dialect (start.moveTo after) with
    | .ok (node, ⟨next, hn⟩) =>
      .ok (.compound .not [node], ⟨next, lt_of_ahead_moveTo hs h hn⟩)
    | .error _ => readAtom dialect cursor
  | none => readAtom dialect cursor
termination_by (cursor.rest.length, 2)

/-- Reads an operand of a chain level: a negation for proximity chains, a proximity chain
for conjunctions, a conjunction chain for disjunctions. -/
def readOperand (dialect : Dialect) : (chain : Chain) → (cursor : Cursor) →
    Except Nat (Node × Ahead cursor)
  | .near, cursor => readNegation dialect cursor
  | .conj, cursor => readChain dialect .near cursor
  | .disj, cursor => readChain dialect .conj cursor
termination_by chain cursor => (cursor.rest.length, 2 * chain.rank + 1)
decreasing_by
  all_goals
    apply Prod.Lex.right
    simp [Chain.rank]

/-- Reads a chain of a level: its first operand, then as many operator and operand pairs as
can be read. -/
def readChain (dialect : Dialect) (chain : Chain) (cursor : Cursor) :
    Except Nat (Node × Ahead cursor) :=
  match readOperand dialect chain cursor with
  | .ok (node, ⟨next, h⟩) =>
    match extendChain dialect chain node next with
    | (folded, ⟨last, hl⟩) => .ok (folded, ⟨last, by omega⟩)
  | .error position => .error position
termination_by (cursor.rest.length, 2 * chain.rank + 2)

/-- Extends a chain whose items so far fold to `acc`: while an operator and an operand can be
read, the operand joins the fold on the right. -/
def extendChain (dialect : Dialect) (chain : Chain) (acc : Node) (cursor : Cursor) :
    Node × NotBehind cursor :=
  let start := cursor.skipSeparators
  have hs : start.rest.length ≤ cursor.rest.length := cursor.skipSeparators_length_le
  match scanOperator chain start with
  | some ⟨after, h⟩ =>
    match readOperand dialect chain (start.moveTo after) with
    | .ok (node, ⟨next, hn⟩) =>
      have hnext : next.rest.length < cursor.rest.length := by
        simp only [Cursor.moveTo_rest] at hn
        omega
      match extendChain dialect chain (.compound chain.builds [acc, node]) next with
      | (folded, ⟨last, hl⟩) => (folded, ⟨last, by omega⟩)
    | .error _ => (acc, ⟨cursor, Nat.le_refl _⟩)
  | none => (acc, ⟨cursor, Nat.le_refl _⟩)
termination_by (cursor.rest.length, 2 * chain.rank + 2)

end

end Listening.Query
