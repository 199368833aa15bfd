import Listening.Proofs.Reading
import Listening.Query.Report

/-!
# The two dialects on text without braces

The braced dialect differs from the plain one in two places only: it tries a braced term
before the other terms, and it stores every other term value lower-cased. On a text with no
opening brace the first never applies, and the second commutes with every step of the reader.
So the braced dialect reads what the plain one reads, with its term values lower-cased; it
stops where the plain one stops and fails where it fails, with the same message
(`parse_dialects_agree_without_braces`).

The comparison runs along the reader by induction on the text left, as `reads_suffix` does;
the text left is a suffix of the text, so it stays free of braces.
-/

namespace Listening.Query

open Listening.Text

/-- The tree with every term value lower-cased. -/
def Node.lowerTerms : Node → Node
  | ⟨kind, value, children⟩ =>
    ⟨kind, if kind = .term then value.map lower else value,
      children.attach.map fun ⟨child, _⟩ => child.lowerTerms⟩

@[simp] theorem Node.lowerTerms_term (value : String) :
    (Node.term value).lowerTerms = .term (lower value) := by
  simp [Node.lowerTerms, Node.term]

@[simp] theorem Node.lowerTerms_compound (kind : Kind) (children : List Node) :
    (Node.compound kind children).lowerTerms = .compound kind (children.map Node.lowerTerms) := by
  simp [Node.lowerTerms, Node.compound]

/-! ### Scanning without braces -/

theorem unescape_eq_brace {c : Char} (brace : unescape c = '{') : c = '{' := by
  unfold unescape at brace
  split_ifs at brace <;> simp_all

theorem scanQuotedBody_brace {text : List Char} :
    ∀ {value : List Char} {rest : Shorter text}, scanQuotedBody text = some (value, rest) →
      '{' ∈ value → '{' ∈ text := by
  fun_induction scanQuotedBody text with
  | case1 | case2 | case3 | case5 | case6 | case8 => intro _ _ scanned; simp_all
  | case4 c rest _ value after h found inside =>
    intro _ _ scanned brace
    cases scanned
    rcases List.mem_cons.mp brace with escaped | later
    · simp [unescape_eq_brace escaped.symm]
    · exact List.mem_cons_of_mem _ (List.mem_cons_of_mem _ (inside found later))
  | case7 c rest _ _ _ value after h found inside =>
    intro _ _ scanned brace
    cases scanned
    rcases List.mem_cons.mp brace with first | later
    · exact first ▸ List.mem_cons_self
    · exact List.mem_cons_of_mem _ (inside found later)


theorem scanQuoted_brace {text value : List Char} {rest : Shorter text}
    (scanned : scanQuoted text = some (value, rest)) (brace : '{' ∈ value) : '{' ∈ text := by
  unfold scanQuoted at scanned
  split at scanned
  · split at scanned
    · rename_i body _ _ found
      cases scanned
      exact List.mem_cons_of_mem _ (scanQuotedBody_brace found brace)
    · cases scanned
  · cases scanned

theorem scanBare_brace {text raw : List Char} {rest : Shorter text}
    (scanned : scanBare text = some (raw, rest)) (brace : '{' ∈ raw) : '{' ∈ text := by
  unfold scanBare at scanned
  split at scanned
  · cases scanned
  · split at scanned
    · cases scanned
      rcases List.mem_cons.mp brace with first | later
      · exact first ▸ List.mem_cons_self
      · exact List.mem_cons_of_mem _ ((List.takeWhile_prefix _).subset later)
    · cases scanned

/-- A term that the plain dialect scans holds an opening brace only if its text does. -/
theorem scanTerm_plain_brace {text raw : List Char} {rest : Shorter text}
    (scanned : scanTerm .plain text = some (raw, rest)) (brace : '{' ∈ raw) : '{' ∈ text := by
  unfold scanTerm at scanned
  simp only [Option.orElse_eq_orElse, Option.orElse_eq_or, Option.or_eq_some_iff,
    Option.ite_none_right_eq_some] at scanned
  rcases scanned with ⟨plainBraced, -⟩ | ⟨-, quoted | ⟨-, bare⟩⟩
  · cases plainBraced
  · exact scanQuoted_brace quoted brace
  · exact scanBare_brace bare brace

/-- Where no opening brace stands, the braced dialect scans terms as the plain one does. -/
theorem scanTerm_bracedLower {text : List Char} (noBrace : '{' ∉ text) :
    scanTerm .bracedLower text = scanTerm .plain text := by
  cases text with
  | nil => rfl
  | cons c more =>
    have notBrace : c ≠ '{' := fun same => noBrace (same ▸ List.mem_cons_self)
    rw [scanTerm_of_not_brace _ notBrace, scanTerm_of_not_brace _ notBrace]

/-- The braced dialect stores a term without braces lower-cased. -/
theorem termValue_bracedLower {raw : List Char} (noBrace : '{' ∉ raw) :
    Dialect.bracedLower.termValue raw = lower (Dialect.plain.termValue raw) := by
  cases raw with
  | nil => rfl
  | cons c more =>
    have notBrace : c ≠ '{' := fun same => noBrace (same ▸ List.mem_cons_self)
    simp [Dialect.termValue, Dialect.bracedLower, Dialect.plain, notBrace]


/-! ### Reading without braces -/

/-- A read result with the term values of its tree lower-cased. -/
def lowerRead (read : Except Nat (Node × Cursor)) : Except Nat (Node × Cursor) :=
  read.map fun result => (result.1.lowerTerms, result.2)

theorem closeParen_lowerTerms (node : Node) (after : Cursor) :
    closeParen (node.lowerTerms, after) = lowerRead (closeParen (node, after)) := by
  simp only [closeParen]
  split <;> rfl

/-- On a text without an opening brace, the braced dialect reads what the plain one reads, with
every term value lower-cased, and stops where it stops or fails where it fails. -/
theorem reads_lowered (cursor : Cursor) (noBrace : '{' ∉ cursor.rest) :
    (∀ level, readLevel .bracedLower level cursor = lowerRead (readLevel .plain level cursor)) ∧
    (∀ chain acc, extendChain' .bracedLower chain acc.lowerTerms cursor =
      ((extendChain' .plain chain acc cursor).1.lowerTerms,
        (extendChain' .plain chain acc cursor).2)) := by
  -- On the length of the text left, as in `reads_suffix`; each cursor reached is a suffix of
  -- this one, so the hypothesis on braces passes down with it.
  induction h : cursor.rest.length using Nat.strong_induction_on generalizing cursor with
  | _ length shorter =>
  subst h
  have skipped : cursor.skipSeparators.rest <:+ cursor.rest := List.dropWhile_suffix _
  have atom : readLevel .bracedLower 0 cursor = lowerRead (readLevel .plain 0 cursor) := by
    rw [readLevel, readLevel, readAtom_eq, readAtom_eq,
      scanTerm_bracedLower fun brace => noBrace (skipped.subset brace)]
    split
    · rename_i raw after found
      obtain ⟨⟨raw', rest⟩, isScanned, same⟩ := Option.map_eq_some_iff.mp found
      simp only [Prod.mk.injEq] at same
      obtain ⟨rfl, rfl⟩ := same
      have rawClean : '{' ∉ raw' := fun brace =>
        noBrace (skipped.subset (scanTerm_plain_brace isScanned brace))
      simp [lowerRead, Except.map, termValue_bracedLower rawClean]
    · rename_i inner _ opening
      have innerSuffix : inner <:+ cursor.rest := by
        rw [opening] at skipped
        exact (List.suffix_cons _ _).trans skipped
      have innerShorter : inner.length < cursor.rest.length := by
        have bound := cursor.skipSeparators_length_le
        rw [opening, List.length_cons] at bound
        omega
      have inside := (shorter inner.length innerShorter (cursor.skipSeparators.moveTo inner)
        (fun brace => noBrace (innerSuffix.subset brace)) rfl).1 4
      change forgetAhead (readChain .bracedLower .disj _) =
        lowerRead (forgetAhead (readChain .plain .disj _)) at inside
      rw [inside]
      cases forgetAhead (readChain .plain .disj (cursor.skipSeparators.moveTo inner)) with
      | error position => rfl
      | ok body => exact closeParen_lowerTerms body.1 body.2
    · rfl
  have negation : readLevel .bracedLower 1 cursor = lowerRead (readLevel .plain 1 cursor) := by
    rw [readLevel, readLevel, readNegation_eq, readNegation_eq]
    split
    · rename_i after found
      obtain ⟨afterSuffix, afterShorter⟩ :=
        skipScan_rest_suffix found fun _ => scanKeyword_rest_suffix
      have operand := (shorter after.length afterShorter (cursor.skipSeparators.moveTo after)
        (fun brace => noBrace (afterSuffix.subset brace)) rfl).1 1
      change forgetAhead (readNegation .bracedLower _) =
        lowerRead (forgetAhead (readNegation .plain _)) at operand
      rw [operand]
      cases forgetAhead (readNegation .plain (cursor.skipSeparators.moveTo after)) with
      | error position => exact atom
      | ok body => simp [lowerRead, Except.map]
    · exact atom
  have chainStep : ∀ chain : Chain,
      readLevel .bracedLower chain.rank cursor = lowerRead (readLevel .plain chain.rank cursor) →
      readLevel .bracedLower (chain.rank + 1) cursor =
        lowerRead (readLevel .plain (chain.rank + 1) cursor) := by
    intro chain operand
    rw [readLevel_chain, readLevel_chain, readChain_eq, readChain_eq, forgetAhead_readOperand,
      forgetAhead_readOperand, operand]
    cases reads : readLevel .plain chain.rank cursor with
    | error position => rfl
    | ok first =>
      have firstSuffix := (reads_suffix .plain cursor).1 chain.rank first.1 first.2 reads
      have extended := (shorter first.2.rest.length (readLevel_shorter reads) first.2
        (fun brace => noBrace (firstSuffix.subset brace)) rfl).2 chain first.1
      simp [lowerRead, Except.map, extended]
  refine ⟨fun level => ?_, fun chain acc => ?_⟩
  · rcases level with _ | _ | _ | _ | level
    · exact atom
    · exact negation
    · exact chainStep .near negation
    · exact chainStep .conj (chainStep .near negation)
    · exact chainStep .disj (chainStep .conj (chainStep .near negation))
  · rw [extendChain_eq, extendChain_eq]
    split
    · rename_i after found
      obtain ⟨afterSuffix, afterShorter⟩ :=
        skipScan_rest_suffix found fun _ => scanOperator_rest_suffix
      have operand := (shorter after.length afterShorter (cursor.skipSeparators.moveTo after)
        (fun brace => noBrace (afterSuffix.subset brace)) rfl).1 chain.rank
      rw [operand]
      cases reads : readLevel .plain chain.rank (cursor.skipSeparators.moveTo after) with
      | error position => rfl
      | ok first =>
        have firstSuffix := (reads_suffix .plain _).1 chain.rank first.1 first.2 reads
        have firstShorter := Nat.lt_trans (readLevel_shorter reads) afterShorter
        have extended := (shorter _ firstShorter first.2
          (fun brace => noBrace ((firstSuffix.trans afterSuffix).subset brace)) rfl).2 chain
          (.compound chain.builds [acc, first.1])
        simpa [lowerRead, Except.map] using extended
    · rfl


/-! ### Whole texts -/

/-- A whole text is read as a query at the loosest level followed by nothing but separators. -/
theorem readAll_eq (dialect : Dialect) (source : List Char) :
    readAll dialect source =
      match readLevel dialect 4 ⟨[], source⟩ with
      | .error position => .error ⟨.term, position, source⟩
      | .ok (node, after) =>
        if after.skipSeparators.rest.isEmpty then .ok node
        else .error ⟨.endOfText, after.skipSeparators.position, source⟩ := by
  unfold readAll
  split
  · rename_i position failed
    simp [readLevel, forgetAhead, failed]
  · rename_i node after _ found
    simp [readLevel, forgetAhead, found]

theorem readAll_lowered {source : List Char} (noBrace : '{' ∉ source) :
    readAll .bracedLower source = (readAll .plain source).map Node.lowerTerms := by
  rw [readAll_eq, readAll_eq, (reads_lowered ⟨[], source⟩ noBrace).1 4]
  cases readLevel .plain 4 ⟨[], source⟩ with
  | error position => rfl
  | ok read =>
    simp only [lowerRead, Except.map]
    split <;> rfl

theorem afterClosing_rest_suffix {text rest : List Char} (found : afterClosing text = some rest) :
    rest <:+ text := by
  induction text with
  | nil => cases found
  | cons c more moreSuffix =>
    unfold afterClosing at found
    split at found
    · cases found
      exact (List.drop_suffix _ _).trans (List.suffix_cons _ _)
    · exact (moreSuffix found).trans (List.suffix_cons _ _)

theorem mem_stripComments {text : List Char} {c : Char} (member : c ∈ stripComments text) :
    c ∈ text := by
  fun_induction stripComments text with
  | case1 => exact member
  | case2 rest after found _ kept =>
    have opening : rest <:+ '<' :: '<' :: '<' :: rest :=
      ((List.suffix_cons _ _).trans (List.suffix_cons _ _)).trans (List.suffix_cons _ _)
    exact ((afterClosing_rest_suffix found).trans opening).subset (kept member)
  | case3 => exact member
  | case4 d rest _ kept =>
    rcases List.mem_cons.mp member with rfl | later
    · exact List.mem_cons_self
    · exact List.mem_cons_of_mem _ (kept later)

/-- Removing comments and expanding tabs brings in no opening brace. -/
theorem prepare_no_brace {text : String} (noBrace : '{' ∉ text.toList) :
    '{' ∉ prepare text := by
  intro brace
  rcases mem_expandTabsFrom brace with stripped | space
  · exact noBrace (mem_stripComments stripped)
  · exact absurd space (by decide)

/-- On a query text without an opening brace, the two dialects print the same, and either both
fail with the same failure or the braced dialect reads the plain dialect's tree with every term
value lower-cased. -/
theorem parse_dialects_agree_without_braces (text : String) (noBrace : '{' ∉ text.toList) :
    parseReport (parse .bracedLower text) = parseReport (parse .plain text) ∧
      parse .bracedLower text = (parse .plain text).map Node.lowerTerms := by
  have lowered : parse .bracedLower text = (parse .plain text).map Node.lowerTerms :=
    readAll_lowered (prepare_no_brace noBrace)
  refine ⟨?_, lowered⟩
  rw [lowered]
  cases parse .plain text <;> rfl

theorem parse_dialects_agree_on_capitals :
    '{' ∉ "NOT Cats AND (\"Dogs\" OR fish)".toList ∧
      (parseReport (parse .bracedLower "NOT Cats AND (\"Dogs\" OR fish)") =
          parseReport (parse .plain "NOT Cats AND (\"Dogs\" OR fish)") ∧
        parse .bracedLower "NOT Cats AND (\"Dogs\" OR fish)" =
          (parse .plain "NOT Cats AND (\"Dogs\" OR fish)").map Node.lowerTerms) :=
  have noBrace : '{' ∉ "NOT Cats AND (\"Dogs\" OR fish)".toList := by simp
  ⟨noBrace, parse_dialects_agree_without_braces _ noBrace⟩

end Listening.Query
