import Mathlib.Data.List.Chain
import Mathlib.Data.List.Forall2
import Listening.Query.Parse

/-!
# Written queries

`Written level tree text` says that `text` writes the query `tree` at a precedence level: 0 for
an atom, 1 for a negation, and one above its rank for a chain. A term is written bare, when its
value is a safe word, or as a quoted literal in which backslash, double quote, tab, line feed,
carriage return and less-than sign stand after a backslash. Parentheses make an atom of any
query. NOT takes an operand of level at most 1. A chain operator joins a left operand of its own
level or tighter and a right operand strictly tighter, since chains fold to the left; a
conjunction is written with AND or with a proximity operator, and every keyword in any letter
case. Every two tokens stand apart by one or more separators.

Such a text holds no comment opening, since each of its less-than signs follows a backslash
(`Written.ltEscaped`), and expanding its tabs gives a text that writes the same tree at the same
level (`Written.expandTabsFrom`): what the reader sees of a written text is written too.
-/

namespace Listening.Query

open Listening.Text

/-- A non-empty run of separators. -/
structure IsGap (gap : List Char) : Prop where
  nonempty : gap ≠ []
  separators : ∀ c ∈ gap, isSeparator c = true

/-- `Spelled word text`: `text` spells `word` letter by letter, in any letter case. -/
def Spelled (word text : List Char) : Prop :=
  List.Forall₂ (fun c w => sameLetter c w = true) text word

/-- The proximity operator as written: NEAR and a slash in any letter case, one or more decimal
digits, and an optional f in either case. -/
def NearSpelling (op : List Char) : Prop :=
  ∃ head digits tail, Spelled ['N', 'E', 'A', 'R', '/'] head ∧ digits ≠ [] ∧
    (∀ d ∈ digits, isDecimalDigit d = true) ∧ (tail = [] ∨ tail = ['f'] ∨ tail = ['F']) ∧
    op = head ++ digits ++ tail

/-- The ways an operator of a chain level is written: a proximity operator for proximity
chains, AND for conjunctions and OR for disjunctions. -/
def Chain.Spells : Chain → List Char → Prop
  | .near, op => NearSpelling op
  | .conj, op => Spelled ['A', 'N', 'D'] op
  | .disj, op => Spelled ['O', 'R'] op

/-- A word that may stand bare for a term: not empty, without blanks, parentheses, double
quotes, opening braces or less-than signs, and not the keyword NOT: when its first three
characters spell NOT, a keyword character follows them. -/
structure SafeWord (word : List Char) : Prop where
  nonempty : word ≠ []
  plain : ∀ c ∈ word, isBlank c = false ∧ c ≠ '(' ∧ c ≠ ')' ∧ c ≠ '"' ∧ c ≠ '{' ∧ c ≠ '<'
  notKeyword : ∀ first second third more, word = first :: second :: third :: more →
    sameLetter first 'N' = true → sameLetter second 'O' = true → sameLetter third 'T' = true →
    ∃ next others, more = next :: others ∧ isKeywordChar next = true

/-- How a character of a value stands in a quoted literal: backslash, double quote, tab, line
feed, carriage return and less-than sign after a backslash, the others as they are. -/
def escapeChar : Char → List Char
  | '\\' => ['\\', '\\']
  | '"' => ['\\', '"']
  | '\t' => ['\\', 't']
  | '\n' => ['\\', 'n']
  | '\r' => ['\\', 'r']
  | '<' => ['\\', '<']
  | c => [c]

/-- A value written as a quoted literal. -/
def quote (value : List Char) : List Char :=
  '"' :: value.flatMap escapeChar ++ ['"']

/-- `Written level tree text`: `text` writes `tree` at precedence `level`. -/
inductive Written : Nat → Node → List Char → Prop
  /-- A term whose value is a safe word, written as it is. -/
  | bare (value : String) (safe : SafeWord value.toList) : Written 0 (.term value) value.toList
  /-- A term written as a quoted literal. -/
  | quoted (value : String) : Written 0 (.term value) (quote value.toList)
  /-- A query between parentheses, with separators inside both. -/
  | paren {level : Nat} {tree : Node} {text opening closing : List Char}
      (inner : Written level tree text) (afterOpen : IsGap opening) (beforeClose : IsGap closing) :
      Written 0 tree ('(' :: opening ++ text ++ closing ++ [')'])
  /-- NOT, then an operand of level at most 1. -/
  | not {level : Nat} {tree : Node} {keyword gap text : List Char}
      (spelled : Spelled ['N', 'O', 'T'] keyword) (apart : IsGap gap)
      (operand : Written level tree text) (tight : level ≤ 1) :
      Written 1 (.compound .not [tree]) (keyword ++ gap ++ text)
  /-- Two operands joined by an operator of a chain level: the left one of the chain's level or
  tighter, the right one strictly tighter. -/
  | join {chain : Chain} {leftLevel rightLevel : Nat} {left right : Node}
      {leftText op rightText before after : List Char}
      (leftWritten : Written leftLevel left leftText) (leftFits : leftLevel ≤ chain.rank + 1)
      (spells : chain.Spells op) (gapBefore : IsGap before) (gapAfter : IsGap after)
      (rightWritten : Written rightLevel right rightText) (rightFits : rightLevel ≤ chain.rank) :
      Written (chain.rank + 1) (.compound chain.builds [left, right])
        (leftText ++ before ++ op ++ after ++ rightText)

theorem Chain.rank_pos (chain : Chain) : 1 ≤ chain.rank := by
  cases chain <;> decide

theorem Chain.rank_le (chain : Chain) : chain.rank ≤ 3 := by
  cases chain <;> decide

theorem Chain.rank_injective : Function.Injective Chain.rank := by
  intro first second same
  cases first <;> cases second <;> first | rfl | exact absurd same (by decide)

/-- No query is written above the disjunction level. -/
theorem Written.level_le {level : Nat} {tree : Node} {text : List Char}
    (written : Written level tree text) : level ≤ 4 := by
  cases written with
  | join => exact Nat.succ_le_succ (Chain.rank_le _)
  | _ => decide

theorem isSeparator_cases {c : Char} (separator : isSeparator c = true) :
    c = ' ' ∨ c = '\t' ∨ c = '\r' ∨ c = '\n' := by
  simpa [isSeparator, or_assoc] using separator

/-- The characters of a spelled word are letters of the word, up to letter case. -/
theorem Spelled.sameLetter_of_mem {word text : List Char} (spelled : Spelled word text)
    {c : Char} (member : c ∈ text) : ∃ w ∈ word, sameLetter c w = true := by
  induction spelled with
  | nil => simp at member
  | cons same _ restLetters =>
    rcases List.mem_cons.mp member with rfl | later
    · exact ⟨_, List.mem_cons_self, same⟩
    · obtain ⟨w, wMember, wSame⟩ := restLetters later
      exact ⟨w, List.mem_cons_of_mem _ wMember, wSame⟩

/-- A character that matches no letter of a word stands nowhere in a spelling of it. -/
theorem Spelled.not_mem {word text : List Char} (spelled : Spelled word text) {c : Char}
    (unlike : ∀ w ∈ word, sameLetter c w = false) : c ∉ text := by
  intro member
  obtain ⟨w, wMember, wSame⟩ := spelled.sameLetter_of_mem member
  simp [unlike w wMember] at wSame

/-- A written operator holds neither a tab nor a less-than sign. -/
theorem Chain.Spells.plain {chain : Chain} {op : List Char} (spells : chain.Spells op) :
    '\t' ∉ op ∧ '<' ∉ op := by
  cases chain with
  | near =>
    obtain ⟨head, digits, tail, spelledHead, -, allDigits, tailForm, rfl⟩ := spells
    have notDigit : ∀ c, c = '\t' ∨ c = '<' → c ∉ digits := by
      rintro c (rfl | rfl) member
      · exact absurd (allDigits _ member) (by decide +kernel)
      · exact absurd (allDigits _ member) (by decide +kernel)
    refine ⟨?_, ?_⟩ <;> simp only [List.mem_append, not_or] <;>
      refine ⟨⟨spelledHead.not_mem (by simp [sameLetter]), notDigit _ (by simp)⟩, ?_⟩ <;>
      rcases tailForm with rfl | rfl | rfl <;> decide
  | conj => exact ⟨spells.not_mem (by simp [sameLetter]), spells.not_mem (by simp [sameLetter])⟩
  | disj => exact ⟨spells.not_mem (by simp [sameLetter]), spells.not_mem (by simp [sameLetter])⟩

/-! ### Comment openings -/

/-- A text in which every less-than sign follows a backslash. -/
def LtEscaped (text : List Char) : Prop :=
  text.IsChain (fun a b => b = '<' → a = '\\') ∧ text.head? ≠ some '<'

namespace LtEscaped

theorem append {front back : List Char} (frontEscaped : LtEscaped front)
    (backEscaped : LtEscaped back) : LtEscaped (front ++ back) := by
  refine ⟨frontEscaped.1.append backEscaped.1 ?_, ?_⟩
  · intro x _ y first isLt
    subst isLt
    exact absurd first backEscaped.2
  · cases front with
    | nil => simpa using backEscaped.2
    | cons c more => simpa using frontEscaped.2

theorem of_forall_ne {text : List Char} (noLt : ∀ c ∈ text, c ≠ '<') : LtEscaped text := by
  induction text with
  | nil => exact ⟨List.isChain_nil, by simp⟩
  | cons c more moreEscaped =>
    have single : LtEscaped [c] :=
      ⟨List.isChain_singleton c, by simpa using noLt c List.mem_cons_self⟩
    exact single.append (moreEscaped fun d member => noLt d (List.mem_cons_of_mem _ member))

theorem flatMap {α : Type} {values : List α} {write : α → List Char}
    (each : ∀ v ∈ values, LtEscaped (write v)) : LtEscaped (values.flatMap write) := by
  induction values with
  | nil => exact of_forall_ne (by simp)
  | cons v more moreEscaped =>
    rw [List.flatMap_cons]
    exact (each v List.mem_cons_self).append
      (moreEscaped fun w member => each w (List.mem_cons_of_mem _ member))

end LtEscaped

theorem LtEscaped.of_separators {text : List Char}
    (separators : ∀ c ∈ text, isSeparator c = true) : LtEscaped text :=
  LtEscaped.of_forall_ne fun c member => by
    rcases isSeparator_cases (separators c member) with rfl | rfl | rfl | rfl <;> decide

theorem IsGap.ltEscaped {gap : List Char} (isGap : IsGap gap) : LtEscaped gap :=
  .of_separators isGap.separators

theorem escapeChar_ltEscaped (c : Char) : LtEscaped (escapeChar c) := by
  unfold escapeChar
  split
  case h_6 => exact ⟨by simp, by decide⟩
  case h_7 other _ _ _ _ _ notLt => exact LtEscaped.of_forall_ne (by simpa using notLt)
  all_goals exact LtEscaped.of_forall_ne (by simp)

/-- Every less-than sign of a written text follows a backslash. -/
theorem Written.ltEscaped {level : Nat} {tree : Node} {text : List Char}
    (written : Written level tree text) : LtEscaped text := by
  induction written with
  | bare value safe => exact LtEscaped.of_forall_ne fun c member => (safe.plain c member).2.2.2.2.2
  | quoted value =>
    have mark : LtEscaped ['"'] := .of_forall_ne (by simp)
    exact (mark.append (LtEscaped.flatMap fun c _ => escapeChar_ltEscaped c)).append mark
  | paren _ afterOpen beforeClose innerEscaped =>
    have opening : LtEscaped ['('] := .of_forall_ne (by simp)
    have closing : LtEscaped [')'] := .of_forall_ne (by simp)
    exact ((((opening.append afterOpen.ltEscaped).append innerEscaped).append
      beforeClose.ltEscaped).append closing)
  | not spelled apart _ _ operandEscaped =>
    exact ((LtEscaped.of_forall_ne fun c member same =>
      spelled.not_mem (by simp [sameLetter]) (same ▸ member)).append apart.ltEscaped).append operandEscaped
  | join _ _ spells gapBefore gapAfter _ _ leftEscaped rightEscaped =>
    exact (((leftEscaped.append gapBefore.ltEscaped).append
      (.of_forall_ne fun c member same => spells.plain.2 (same ▸ member))).append
        gapAfter.ltEscaped).append rightEscaped

/-- A text with no less-than sign right after another keeps its comments-free form. -/
theorem stripComments_of_isChain {text : List Char}
    (escaped : text.IsChain (fun a b => b = '<' → a = '\\')) : stripComments text = text := by
  induction text with
  | nil => exact stripComments.eq_1
  | cons c more moreSame =>
    rw [stripComments.eq_3 c more ?opening, moreSame escaped.tail]
    intro rest isLt moreForm
    subst moreForm
    have before := (List.isChain_cons_cons.mp escaped).1 rfl
    exact absurd (isLt.symm.trans before) (by decide)

/-! ### Tab stops -/

/-- Expanding tabs over two texts expands the first from the starting column and the second from
the column the first ends at. -/
theorem expandTabsFrom_append (width column : Nat) (front back : List Char) :
    ∃ column', expandTabsFrom width column (front ++ back) =
      expandTabsFrom width column front ++ expandTabsFrom width column' back := by
  induction front generalizing column with
  | nil => exact ⟨column, rfl⟩
  | cons c more moreSplits =>
    rw [List.cons_append, expandTabsFrom.eq_2, expandTabsFrom.eq_2]
    split
    · obtain ⟨column', split⟩ := moreSplits (column + (width - column % width))
      exact ⟨column', by dsimp only; rw [split, List.append_assoc]⟩
    · split
      · obtain ⟨column', split⟩ := moreSplits 0
        exact ⟨column', by rw [split, List.cons_append]⟩
      · obtain ⟨column', split⟩ := moreSplits (column + 1)
        exact ⟨column', by rw [split, List.cons_append]⟩

theorem expandTabsFrom_of_tab_not_mem {text : List Char} (noTab : '\t' ∉ text)
    (width column : Nat) : expandTabsFrom width column text = text := by
  induction text generalizing column with
  | nil => rfl
  | cons c more moreSame =>
    have notTab : c ≠ '\t' := fun same => noTab (same ▸ List.mem_cons_self)
    have moreNoTab : '\t' ∉ more := fun member => noTab (List.mem_cons_of_mem _ member)
    rw [expandTabsFrom.eq_2, if_neg notTab]
    split <;> rw [moreSame moreNoTab]

/-- Tab expansion brings in no character but spaces. -/
theorem mem_expandTabsFrom {width column : Nat} {text : List Char} {c : Char}
    (member : c ∈ expandTabsFrom width column text) : c ∈ text ∨ c = ' ' := by
  induction text generalizing column with
  | nil => simp [expandTabsFrom] at member
  | cons d more moreMembers =>
    have fromMore : ∀ {column'}, c ∈ expandTabsFrom width column' more → c ∈ d :: more ∨ c = ' ' :=
      fun later => (moreMembers later).imp_left (List.mem_cons_of_mem _)
    rw [expandTabsFrom.eq_2] at member
    split at member
    · rcases List.mem_append.mp member with spaces | later
      · exact .inr (List.eq_of_mem_replicate spaces)
      · exact fromMore later
    · split at member <;> rcases List.mem_cons.mp member with rfl | later
      · exact .inl List.mem_cons_self
      · exact fromMore later
      · exact .inl List.mem_cons_self
      · exact fromMore later

/-- Expanding the tabs of separators gives separators. -/
theorem separators_expandTabsFrom {text : List Char}
    (separators : ∀ c ∈ text, isSeparator c = true) (width column : Nat) :
    ∀ c ∈ expandTabsFrom width column text, isSeparator c = true := by
  intro c member
  rcases mem_expandTabsFrom member with original | rfl
  · exact separators c original
  · rfl

theorem IsGap.expandTabsFrom {gap : List Char} (isGap : IsGap gap) {width : Nat}
    (positive : 0 < width) (column : Nat) : IsGap (expandTabsFrom width column gap) := by
  refine ⟨?_, separators_expandTabsFrom isGap.separators width column⟩
  obtain ⟨first, more, rfl⟩ := List.exists_cons_of_ne_nil isGap.nonempty
  rw [expandTabsFrom.eq_2]
  split
  · have filled : 0 < width - column % width := Nat.sub_pos_of_lt (Nat.mod_lt _ positive)
    simp [Nat.pos_iff_ne_zero.mp filled]
  · split <;> simp

theorem expandTabsFrom_cons_of_plain {c : Char} (notTab : c ≠ '\t') (notBreak : c ≠ '\n')
    (notReturn : c ≠ '\r') (width column : Nat) (rest : List Char) :
    expandTabsFrom width column (c :: rest) = c :: expandTabsFrom width (column + 1) rest := by
  simp [expandTabsFrom.eq_2, notTab, notBreak, notReturn]

theorem tab_not_mem_quote (value : List Char) : '\t' ∉ quote value := by
  have notInEscape : ∀ c, '\t' ∉ escapeChar c := by
    intro c
    unfold escapeChar
    split
    case h_7 other _ _ notTab _ _ _ => simpa using fun same => notTab same.symm
    all_goals decide
  simp [quote, notInEscape]

/-- Expanding the tabs of a written text gives a text that writes the same tree at the same
level: tokens hold no tab, and a gap stays a gap. -/
theorem Written.expandTabsFrom {level : Nat} {tree : Node} {text : List Char}
    (written : Written level tree text) {width : Nat} (positive : 0 < width) (column : Nat) :
    Written level tree (Text.expandTabsFrom width column text) := by
  induction written generalizing column with
  | bare value safe =>
    have noTab : '\t' ∉ value.toList := fun member =>
      absurd (safe.plain '\t' member).1 (by decide +kernel)
    rw [expandTabsFrom_of_tab_not_mem noTab]
    exact .bare value safe
  | quoted value =>
    rw [expandTabsFrom_of_tab_not_mem (tab_not_mem_quote value.toList)]
    exact .quoted value
  | @paren _ _ inner opening closing _ afterOpen beforeClose innerExpands =>
    obtain ⟨c1, split1⟩ := expandTabsFrom_append width column ('(' :: opening ++ inner ++ closing) [')']
    obtain ⟨c2, split2⟩ := expandTabsFrom_append width column ('(' :: opening ++ inner) closing
    obtain ⟨c3, split3⟩ := expandTabsFrom_append width column ('(' :: opening) inner
    rw [split1, split2, split3, expandTabsFrom_cons_of_plain (by decide) (by decide) (by decide),
      expandTabsFrom_of_tab_not_mem (show '\t' ∉ [')'] by decide)]
    exact .paren (innerExpands _) (afterOpen.expandTabsFrom positive _)
      (beforeClose.expandTabsFrom positive _)
  | not spelled apart _ tight operandExpands =>
    obtain ⟨c1, split1⟩ := expandTabsFrom_append width column _ _
    obtain ⟨c2, split2⟩ := expandTabsFrom_append width column _ _
    rw [split1, split2, expandTabsFrom_of_tab_not_mem (spelled.not_mem (by simp [sameLetter]))]
    exact .not spelled (apart.expandTabsFrom positive _) (operandExpands _) tight
  | join _ leftFits spells gapBefore gapAfter _ rightFits leftExpands rightExpands =>
    obtain ⟨c1, split1⟩ := expandTabsFrom_append width column _ _
    obtain ⟨c2, split2⟩ := expandTabsFrom_append width column _ _
    obtain ⟨c3, split3⟩ := expandTabsFrom_append width column _ _
    obtain ⟨c4, split4⟩ := expandTabsFrom_append width column _ _
    rw [split1, split2, split3, split4, expandTabsFrom_of_tab_not_mem spells.plain.1]
    exact .join (leftExpands _) leftFits spells (gapBefore.expandTabsFrom positive _)
      (gapAfter.expandTabsFrom positive _) (rightExpands _) rightFits

end Listening.Query
