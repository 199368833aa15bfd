import Mathlib.Data.List.Forall2
import Mathlib.Data.List.Nodup
import Listening.Tokenizer.Vocabulary

/-!
# Encoding what was decoded

Decoding joins tokens with spaces and drops the blanks before closing marks; encoding splits at
marks, double hyphens and blanks. The two meet on atomic tokens (`Atomic`): one mark, a double
hyphen, or a word with no blank, no mark and no double hyphen in it. Splitting the join of
atomic tokens gives them back (`Generation.split_join`): the spaces between them split there,
and the blanks that joining drops stand before closing marks, which are marks and split there
anyway. Every piece of a split is atomic in turn (`Generation.split_atomic`).

So identifiers whose tokens are atomic come back from decoding and encoding again, naming the
same entries (`encode_decode_atomic`). Encoding a text, decoding and encoding again gives the
same identifiers only when identifiers name entries one for one (`encode_decode_encode`):
decoding an identifier gives the last token listed with it, which need not be the piece that
was encoded (`decode_shared_id_breaks_encode`).
-/

namespace Listening.Tokenizer

open Listening.Text

theorem isBlank_dash : isBlank '-' = false := by decide +kernel

theorem isBlank_space : isBlank ' ' = true := by decide +kernel

theorem ne_dash_of_blank {c : Char} (blank : isBlank c = true) : c ≠ '-' := fun same => by
  rw [same, isBlank_dash] at blank
  cases blank

/-- A token that splitting gives back whole: one mark, a double hyphen, or a word of characters
that are neither blanks nor marks, with no double hyphen in it. -/
inductive Atomic (marks : List Char) : String → Prop
  | mark {c : Char} : c ∈ marks → Atomic marks c.toString
  | dash : Atomic marks "--"
  | word {chars : List Char} : chars ≠ [] → (∀ c ∈ chars, isBlank c = false ∧ c ∉ marks) →
      ¬ ['-', '-'] <:+: chars → Atomic marks (String.ofList chars)

section Splitting

variable {marks : List Char}

@[simp] theorem close_nil : splitFrom.close [] = [] := rfl

@[simp] theorem splitFrom_nil (word : List Char) : splitFrom marks word [] = splitFrom.close word :=
  splitFrom.eq_1 marks word

theorem close_of_ne_nil {word : List Char} (nonempty : word ≠ []) :
    splitFrom.close word = [String.ofList word.reverse] := by
  simp [splitFrom.close, nonempty]

/-- A double hyphen is a piece of its own. -/
theorem splitFrom_dash (word rest : List Char) :
    splitFrom marks word ('-' :: '-' :: rest) = splitFrom.close word ++ ["--"] ++ splitFrom marks [] rest :=
  splitFrom.eq_2 marks word rest

theorem splitFrom_mark {word rest : List Char} {c : Char} (noDash : '-' ∉ marks) (mark : c ∈ marks) :
    splitFrom marks word (c :: rest) = splitFrom.close word ++ [c.toString] ++ splitFrom marks [] rest := by
  have notDash : c ≠ '-' := fun same => noDash (same ▸ mark)
  rw [splitFrom.eq_3 marks word c rest fun _ dash _ => notDash dash]
  simp [mark]

theorem splitFrom_blank {word rest : List Char} {c : Char} (blank : isBlank c = true) (notMark : c ∉ marks) :
    splitFrom marks word (c :: rest) = splitFrom.close word ++ splitFrom marks [] rest := by
  rw [splitFrom.eq_3 marks word c rest fun _ dash _ => ne_dash_of_blank blank dash]
  simp [notMark, blank]

theorem splitFrom_letter {word rest : List Char} {c : Char} (solid : isBlank c = false)
    (notMark : c ∉ marks) (single : c = '-' → rest.head? ≠ some '-') :
    splitFrom marks word (c :: rest) = splitFrom marks (c :: word) rest := by
  rw [splitFrom.eq_3 marks word c rest fun r dash after => single dash (by simp [after])]
  simp [notMark, solid]

/-- The characters of a word go onto the piece being read, as long as they hold no double hyphen
and the word does not end in a hyphen that the text after it continues. -/
theorem splitFrom_word_append : ∀ (chars word rest : List Char),
    (∀ c ∈ chars, isBlank c = false ∧ c ∉ marks) → ¬ ['-', '-'] <:+: chars →
    (chars.getLast? = some '-' → rest.head? ≠ some '-') →
    splitFrom marks word (chars ++ rest) = splitFrom marks (chars.reverse ++ word) rest
  | [], word, rest, _, _, _ => by simp
  | c :: more, word, rest, solid, noDouble, lastDash => by
    obtain ⟨blankFree, notMark⟩ := solid c List.mem_cons_self
    have single : c = '-' → (more ++ rest).head? ≠ some '-' := by
      intro dash
      cases more with
      | nil => simpa [dash] using lastDash
      | cons d ds =>
        rintro ⟨⟩
        exact noDouble (List.IsPrefix.isInfix (by simp [dash]))
    rw [List.cons_append, splitFrom_letter blankFree notMark single,
      splitFrom_word_append more (c :: word) rest (fun d member => solid d (List.mem_cons_of_mem c member))
        (fun double => noDouble (double.trans (List.suffix_cons c more).isInfix))
        (fun last => lastDash (by cases more <;> simp_all [List.getLast?_cons]))]
    simp

/-- An atomic token followed by a blank, or by nothing, is one piece. -/
theorem splitFrom_atomic_append (noDash : '-' ∉ marks) {token : String} (atomic : Atomic marks token)
    {rest : List Char} (apart : ∀ c ∈ rest.head?, isBlank c = true ∧ c ∉ marks) :
    splitFrom marks [] (token.toList ++ rest) = token :: splitFrom marks [] rest := by
  cases atomic with
  | mark member => simp [splitFrom_mark noDash member]
  | dash => simpa using (splitFrom_dash [] rest : splitFrom marks [] _ = _)
  | @word chars nonempty solid noDouble =>
    have lastDash : chars.getLast? = some '-' → rest.head? ≠ some '-' := by
      intro _ restDash
      have := (apart '-' restDash).1
      rw [isBlank_dash] at this
      cases this
    rw [String.toList_ofList, splitFrom_word_append chars [] rest solid noDouble lastDash, List.append_nil]
    have closed : splitFrom.close chars.reverse = [String.ofList chars] := by
      simp [close_of_ne_nil (List.reverse_ne_nil_iff.mpr nonempty)]
    cases rest with
    | nil => simp [closed]
    | cons b more =>
      obtain ⟨blank, notMark⟩ := apart b rfl
      simp [splitFrom_blank blank notMark, closed]

/-- Splitting the atomic tokens joined by spaces gives the tokens back. -/
theorem splitFrom_intercalate (noDash : '-' ∉ marks) (spaceFree : ' ' ∉ marks) :
    ∀ tokens : List String, (∀ token ∈ tokens, Atomic marks token) →
      splitFrom marks [] (" ".intercalate tokens).toList = tokens
  | [], _ => rfl
  | [token], atomic => by
    simpa using (splitFrom_atomic_append noDash (atomic token List.mem_cons_self) (by simp) :
      splitFrom marks [] (token.toList ++ []) = token :: splitFrom marks [] [])
  | token :: next :: more, atomic => by
    have spaced : (" ".intercalate (token :: next :: more)).toList =
        token.toList ++ ' ' :: (" ".intercalate (next :: more)).toList := by
      simp [String.intercalate_cons_cons]
    rw [spaced, splitFrom_atomic_append noDash (atomic token List.mem_cons_self)
      (by simp [isBlank_space, spaceFree]), splitFrom_blank isBlank_space spaceFree, close_nil,
      List.nil_append, splitFrom_intercalate noDash spaceFree (next :: more)
        fun other member => atomic other (List.mem_cons_of_mem token member)]

/-- A run of blanks ends the piece being read and is itself no piece. -/
theorem splitFrom_blanks_append (marksSolid : ∀ c ∈ marks, isBlank c = false) :
    ∀ (blanks word text : List Char), (∀ c ∈ blanks, isBlank c = true) → blanks ≠ [] →
      splitFrom marks word (blanks ++ text) = splitFrom.close word ++ splitFrom marks [] text
  | [], _, _, _, nonempty => absurd rfl nonempty
  | b :: more, word, text, blank, _ => by
    have notMark : ∀ c, isBlank c = true → c ∉ marks := fun c blankC member => by
      rw [marksSolid c member] at blankC
      cases blankC
    rw [List.cons_append, splitFrom_blank (blank b List.mem_cons_self) (notMark b (blank b List.mem_cons_self))]
    cases more with
    | nil => rfl
    | cons d ds =>
      rw [splitFrom_blanks_append marksSolid (d :: ds) [] text
        (fun c member => blank c (List.mem_cons_of_mem b member)) (List.cons_ne_nil d ds)]
      simp

/-- Blanks before a mark change no piece: the mark ends the piece being read anyway. -/
theorem splitFrom_blanks_mark (marksSolid : ∀ c ∈ marks, isBlank c = false) (noDash : '-' ∉ marks)
    {c : Char} (mark : c ∈ marks) (blanks word rest : List Char) (blank : ∀ b ∈ blanks, isBlank b = true) :
    splitFrom marks word (blanks ++ c :: rest) = splitFrom marks word (c :: rest) := by
  cases blanks with
  | nil => rfl
  | cons b more =>
    rw [splitFrom_blanks_append marksSolid (b :: more) word _ blank (List.cons_ne_nil b more),
      splitFrom_mark noDash mark, splitFrom_mark noDash mark]
    simp

/-- Two texts that split alike after any piece read so far still do so after a run of blanks. -/
theorem splitFrom_blanks_congr (marksSolid : ∀ c ∈ marks, isBlank c = false) {first second : List Char}
    (alike : ∀ word, splitFrom marks word first = splitFrom marks word second)
    (blanks word : List Char) (blank : ∀ b ∈ blanks, isBlank b = true) :
    splitFrom marks word (blanks ++ first) = splitFrom marks word (blanks ++ second) := by
  cases blanks with
  | nil => exact alike word
  | cons b more =>
    rw [splitFrom_blanks_append marksSolid (b :: more) word _ blank (List.cons_ne_nil b more),
      splitFrom_blanks_append marksSolid (b :: more) word _ blank (List.cons_ne_nil b more), alike]

/-- The piece read so far is atomic, if it is there. -/
theorem close_atomic {word : List Char} (solid : ∀ c ∈ word, isBlank c = false ∧ c ∉ marks)
    (noDouble : ¬ ['-', '-'] <:+: word) : ∀ piece ∈ splitFrom.close word, Atomic marks piece := by
  intro piece member
  by_cases empty : word = []
  · simp [empty] at member
  rw [close_of_ne_nil empty, List.mem_singleton] at member
  subst member
  exact .word (by simpa using empty) (fun c inside => solid c (List.mem_reverse.mp inside))
    (fun double => noDouble (by simpa using List.reverse_infix.mpr double))

/-- Every piece of a split is atomic. The piece being read keeps three facts along the way: its
characters are neither blanks nor marks, it holds no double hyphen, and a hyphen read last is
not followed by another. -/
theorem splitFrom_atomic (word text : List Char) (solid : ∀ c ∈ word, isBlank c = false ∧ c ∉ marks)
    (noDouble : ¬ ['-', '-'] <:+: word) (single : word.head? = some '-' → text.head? ≠ some '-') :
    ∀ piece ∈ splitFrom marks word text, Atomic marks piece := by
  fun_induction splitFrom marks word text with
  | case1 word => exact close_atomic solid noDouble
  | case2 word rest ih =>
    intro piece member
    simp only [List.mem_append, List.mem_singleton] at member
    rcases member with (closed | rfl) | later
    · exact close_atomic solid noDouble piece closed
    · exact .dash
    · exact ih (by simp) (by simp) (by simp) piece later
  | case3 word c rest _ mark ih =>
    intro piece member
    simp only [List.mem_append, List.mem_singleton] at member
    rcases member with (closed | rfl) | later
    · exact close_atomic solid noDouble piece closed
    · exact .mark (by simpa using mark)
    · exact ih (by simp) (by simp) (by simp) piece later
  | case4 word c rest _ _ _ ih =>
    intro piece member
    rcases List.mem_append.mp member with closed | later
    · exact close_atomic solid noDouble piece closed
    · exact ih (by simp) (by simp) (by simp) piece later
  | case5 word c rest notDouble notMark solidC ih =>
    -- the character joins the piece being read, which keeps its three facts
    apply ih
    · intro d member
      rcases List.mem_cons.mp member with rfl | member
      · exact ⟨by simpa using solidC, by simpa using notMark⟩
      · exact solid d member
    · intro double
      rcases List.infix_cons_iff.mp double with ⟨after, joined⟩ | inner
      · simp only [List.cons_append, List.nil_append, List.cons.injEq] at joined
        obtain ⟨rfl, rfl⟩ := joined
        exact single (by simp) (by simp)
      · exact noDouble inner
    · intro dash after
      cases rest with
      | nil => cases after
      | cons d r => exact notDouble r (by simpa using dash) (by simpa using after)

end Splitting

section Joining

variable {marks closing : List Char}

/-- Dropping blanks never puts a hyphen first where there was none: only a text that starts with
one, with no blanks pending, gives one first. -/
theorem dropBlanksFrom_head_dash (dashOpen : '-' ∉ closing) (pending text : List Char)
    (blanks : ∀ c ∈ pending, isBlank c = true)
    (dash : (dropBlanksFrom closing pending text).head? = some '-') :
    pending = [] ∧ text.head? = some '-' := by
  fun_induction dropBlanksFrom closing pending text with
  | case1 pending =>
    have : '-' ∈ pending := by simpa using List.mem_of_mem_head? dash
    exact absurd rfl (ne_dash_of_blank (blanks '-' this))
  | case2 pending c rest blankC ih =>
    have := ih (by simp_all) dash
    simp at this
  | case3 pending c rest _ closingC _ =>
    simp only [List.head?_cons, Option.some.injEq] at dash
    exact absurd (dash ▸ closingC) (by simpa using dashOpen)
  | case4 pending c rest _ _ _ =>
    cases pending with
    | nil => simpa using dash
    | cons b more =>
      have : '-' ∈ b :: more := by
        rw [List.head?_append_of_ne_nil _ (by simp)] at dash
        exact List.mem_reverse.mp (List.mem_of_mem_head? dash)
      exact absurd rfl (ne_dash_of_blank (blanks '-' this))

/-- Removing the blanks before closing marks changes no piece: each closing mark is a mark, which
ends the piece before it anyway. -/
theorem splitFrom_dropBlanksFrom (marksSolid : ∀ c ∈ marks, isBlank c = false) (noDash : '-' ∉ marks)
    (closes : ∀ c ∈ closing, c ∈ marks) (text : List Char) :
    ∀ (word pending : List Char), (∀ c ∈ pending, isBlank c = true) →
      splitFrom marks word (dropBlanksFrom closing pending text) =
        splitFrom marks word (pending.reverse ++ text) := by
  have dashOpen : '-' ∉ closing := fun member => noDash (closes '-' member)
  -- strong induction on the length: a double hyphen is read two characters at a time
  induction h : text.length using Nat.strongRecOn generalizing text with
  | _ n ih =>
  intro word pending blanks
  match text with
  | [] => simp [dropBlanksFrom]
  | c :: rest =>
    have shorter : rest.length < n := by simp [← h]
    have restAlike : ∀ word, splitFrom marks word (dropBlanksFrom closing [] rest) = splitFrom marks word rest :=
      fun word => by simpa using ih rest.length shorter rest rfl word [] (by simp)
    by_cases blank : isBlank c = true
    · -- a blank joins the pending ones
      rw [dropBlanksFrom, if_pos blank, ih rest.length shorter rest rfl word (c :: pending)
        (fun b member => by rcases List.mem_cons.mp member with rfl | member <;> simp_all)]
      simp
    -- what follows a character that is no blank splits alike, dropped blanks or not
    have step : ∀ word, splitFrom marks word (c :: dropBlanksFrom closing [] rest) =
        splitFrom marks word (c :: rest) := by
      intro word
      by_cases mark : c ∈ marks
      · rw [splitFrom_mark noDash mark, splitFrom_mark noDash mark, restAlike]
      by_cases double : c = '-' ∧ rest.head? = some '-'
      · obtain ⟨rfl, restDash⟩ := double
        obtain ⟨r, rfl⟩ : ∃ r, rest = '-' :: r := by
          cases rest with
          | nil => cases restDash
          | cons d r => simp_all
        have shorterR : r.length < n := by rw [← h, List.length_cons, List.length_cons]; omega
        have afterDouble : splitFrom marks [] (dropBlanksFrom closing [] r) = splitFrom marks [] r := by
          simpa using ih r.length shorterR r rfl [] [] (by simp)
        rw [dropBlanksFrom, if_neg (by simp [isBlank_dash]), if_neg (by simpa using dashOpen),
          List.reverse_nil, List.nil_append, splitFrom_dash, splitFrom_dash, afterDouble]
      · have single : c = '-' → rest.head? ≠ some '-' := fun dash restDash => double ⟨dash, restDash⟩
        have singleDropped : c = '-' → (dropBlanksFrom closing [] rest).head? ≠ some '-' :=
          fun dash droppedDash => single dash (dropBlanksFrom_head_dash dashOpen [] rest (by simp) droppedDash).2
        rw [splitFrom_letter (by simpa using blank) mark singleDropped,
          splitFrom_letter (by simpa using blank) mark single, restAlike]
    rw [dropBlanksFrom, if_neg blank]
    split
    · -- a closing mark: the blanks pending before it are dropped
      rename_i closingC
      rw [step, splitFrom_blanks_mark marksSolid noDash (closes c (by simpa using closingC)) _ word rest
        (fun b member => blanks b (List.mem_reverse.mp member))]
    · exact splitFrom_blanks_congr marksSolid step pending.reverse word
        (fun b member => blanks b (List.mem_reverse.mp member))

end Joining


namespace Generation

variable (generation : Generation)

theorem splitMarks_solid : ∀ c ∈ generation.splitMarks, isBlank c = false := by
  cases generation <;> simp only [splitMarks, List.forall_mem_cons, List.not_mem_nil,
    IsEmpty.forall_iff, implies_true, and_true] <;> and_intros <;> decide +kernel

theorem dash_not_mem_splitMarks : '-' ∉ generation.splitMarks := by
  cases generation <;> simp [splitMarks]

theorem space_not_mem_splitMarks : ' ' ∉ generation.splitMarks := by
  cases generation <;> simp [splitMarks]

theorem closingMarks_subset : ∀ c ∈ generation.closingMarks, c ∈ generation.splitMarks := by
  cases generation <;> simp [closingMarks, splitMarks]

/-- Splitting the join of atomic tokens gives the tokens back: the blanks that joining removes
stand before marks, which split there anyway. -/
theorem split_join (tokens : List String) (atomic : ∀ token ∈ tokens, Atomic generation.splitMarks token) :
    generation.split (generation.join tokens) = tokens := by
  rw [split, join, String.toList_ofList,
    splitFrom_dropBlanksFrom generation.splitMarks_solid generation.dash_not_mem_splitMarks
      generation.closingMarks_subset _ [] [] (by simp)]
  exact splitFrom_intercalate generation.dash_not_mem_splitMarks generation.space_not_mem_splitMarks
    tokens atomic

end Generation

example : Generation.first.join ["Hello", ",", "world", "."] = "Hello, world." := by decide +kernel

theorem Generation.split_atomic (generation : Generation) (text : String) :
    ∀ piece ∈ generation.split text, Atomic generation.splitMarks piece :=
  splitFrom_atomic [] text.toList (by simp) (by simp) (by simp)

theorem unknownToken_atomic (generation : Generation) : Atomic generation.splitMarks unknownToken := by
  have chars : unknownToken = String.ofList ['<', '|', 'u', 'n', 'k', '|', '>'] := rfl
  rw [chars]
  refine .word (by simp) ?_ (by decide)
  intro c member
  simp only [List.mem_cons, List.not_mem_nil, or_false] at member
  rcases member with rfl | rfl | rfl | rfl | rfl | rfl | rfl <;>
    exact ⟨by decide +kernel, by cases generation <;> simp [Generation.splitMarks]⟩

/-- A traversal in `Except` succeeds exactly when every step does, with the results in order. -/
theorem mapM_eq_ok_iff {α β ε : Type} {f : α → Except ε β} {xs : List α} {ys : List β} :
    xs.mapM f = .ok ys ↔ List.Forall₂ (fun x y => f x = .ok y) xs ys := by
  induction xs generalizing ys with
  | nil => cases ys <;> simp [pure, Except.pure]
  | cons x xs ih =>
    rw [List.mapM_cons]
    cases step : f x with
    | error e => cases ys <;> simp [step, bind, Except.bind]
    | ok y =>
      cases rest : xs.mapM f with
      | error e =>
        have noRest : ∀ zs, ¬ List.Forall₂ (fun x y => f x = .ok y) xs zs := fun zs found => by
          rw [← ih, rest] at found
          cases found
        cases ys <;> simp [bind, Except.bind, noRest]
      | ok zs => cases ys <;> simp [bind, Except.bind, pure, Except.pure, step, ← ih, rest]

/-- Mapping a result in `Except` succeeds exactly when the result does. -/
theorem map_eq_ok_iff {α β ε : Type} {f : α → β} {x : Except ε α} {b : β} :
    x.map f = .ok b ↔ ∃ a, x = .ok a ∧ f a = b := by
  cases x <;> simp [Except.map]

namespace Vocabulary

/-- Identifiers name entries one for one: two listed identifiers name the same entry exactly
when they stand for the same token. -/
def IdsDistinct (vocabulary : Vocabulary) : Prop :=
  ∀ a ∈ vocabulary.entries, ∀ b ∈ vocabulary.entries, a.2.same b.2 = true ↔ a.1 = b.1

/-- The pieces that encoding looks up: the second generation spells each piece missing from the
vocabulary as the unknown token. -/
def spell (vocabulary : Vocabulary) : Generation → List String → List String
  | .first, pieces => pieces
  | .second, pieces =>
    pieces.map fun piece => if (vocabulary.keyOf? piece).isSome then piece else unknownToken

variable {vocabulary : Vocabulary}

/-- With no token listed twice, a token's identifier is the one listed with it. -/
theorem keyOf?_eq_some_iff (dict : (vocabulary.entries.map Prod.fst).Nodup) {token : String}
    {key : Key} : vocabulary.keyOf? token = some key ↔ (token, key) ∈ vocabulary.entries := by
  constructor
  · intro found
    rw [keyOf?, Option.map_eq_some_iff] at found
    obtain ⟨entry, found, rfl⟩ := found
    have named : entry.1 = token := by simpa using List.find?_some found
    rw [← named]
    exact List.mem_of_find?_eq_some found
  · intro member
    have listed : (vocabulary.entries.find? (·.1 == token)).isSome :=
      List.find?_isSome.mpr ⟨(token, key), member, by simp⟩
    obtain ⟨entry, found⟩ := Option.isSome_iff_exists.mp listed
    have same : entry = (token, key) :=
      List.inj_on_of_nodup_map dict (List.mem_of_find?_eq_some found) member
        (by simpa using List.find?_some found)
    rw [keyOf?, found, same]
    rfl

/-- The token of an identifier is listed with an identifier that names the same entry. -/
theorem tokenOf?_eq_some {key : Key} {token : String} (found : vocabulary.tokenOf? key = some token) :
    ∃ other, (token, other) ∈ vocabulary.entries ∧ other.same key = true := by
  rw [tokenOf?, Option.map_eq_some_iff] at found
  obtain ⟨entry, found, rfl⟩ := found
  exact ⟨entry.2, List.mem_reverse.mp (List.mem_of_find?_eq_some found),
    by simpa using List.find?_some found⟩

/-- When identifiers name entries one for one, a listed identifier gives back its own token. -/
theorem tokenOf?_of_mem (distinct : vocabulary.IdsDistinct) {token : String} {key : Key}
    (member : (token, key) ∈ vocabulary.entries) : vocabulary.tokenOf? key = some token := by
  have own : key.same key = true := (distinct _ member _ member).mpr rfl
  have listed : (vocabulary.entries.reverse.find? (·.2.same key)).isSome :=
    List.find?_isSome.mpr ⟨(token, key), List.mem_reverse.mpr member, own⟩
  obtain ⟨entry, found⟩ := Option.isSome_iff_exists.mp listed
  have matched : entry.2.same key = true := by simpa using List.find?_some found
  have named : entry.1 = token :=
    (distinct entry (List.mem_reverse.mp (List.mem_of_find?_eq_some found)) _ member).mp matched
  rw [tokenOf?, found, ← named]
  rfl

/-- Encoding succeeds exactly when every spelled piece has an identifier. -/
theorem encode_eq_ok_iff {generation : Generation} {text : String} {keys : List Key} :
    vocabulary.encode generation text = .ok keys ↔
      List.Forall₂ (fun piece key => vocabulary.keyOf? piece = some key)
        (vocabulary.spell generation (generation.split text)) keys := by
  -- each step of the traversal is a lookup that fails with the piece
  cases generation <;> simp only [encode, spell, mapM_eq_ok_iff] <;> constructor <;>
    refine List.Forall₂.imp fun piece key => ?_ <;> cases vocabulary.keyOf? piece <;> simp

/-- Decoding succeeds exactly when every identifier has a token; it joins the tokens. -/
theorem decode_eq_ok_iff {generation : Generation} {keys : List Key} {text : String} :
    vocabulary.decode generation keys = .ok text ↔
      ∃ tokens, List.Forall₂ (fun key token => vocabulary.tokenOf? key = some token) keys tokens ∧
        text = generation.join tokens := by
  simp only [decode, map_eq_ok_iff, mapM_eq_ok_iff]
  -- each step of the traversal is a lookup that fails with the identifier
  constructor <;> rintro ⟨tokens, found, rfl⟩ <;> refine ⟨tokens, found.imp fun key token => ?_, rfl⟩ <;>
    cases vocabulary.tokenOf? key <;> simp

/-- Spelling keeps pieces that all have identifiers. -/
theorem spell_of_known {generation : Generation} {pieces : List String}
    (known : ∀ piece ∈ pieces, (vocabulary.keyOf? piece).isSome) :
    vocabulary.spell generation pieces = pieces := by
  cases generation with
  | first => rfl
  | second =>
    conv => rhs; rw [← List.map_id pieces]
    exact List.map_congr_left fun piece member => by simp [known piece member]

/-- The token of an identifier has an identifier of its own, which names the same entry. -/
theorem keyOf?_of_tokenOf? (dict : (vocabulary.entries.map Prod.fst).Nodup) {id : Key} {token : String}
    (found : vocabulary.tokenOf? id = some token) :
    ∃ key, vocabulary.keyOf? token = some key ∧ key.same id = true := by
  obtain ⟨key, member, same⟩ := tokenOf?_eq_some found
  exact ⟨key, (keyOf?_eq_some_iff dict).mpr member, same⟩

end Vocabulary


/-- Identifiers whose tokens are atomic survive decoding and encoding again: the new identifiers
name the same entries, one for one. -/
theorem encode_decode_atomic {vocabulary : Vocabulary} (dict : (vocabulary.entries.map Prod.fst).Nodup)
    (generation : Generation) (ids : List Key)
    (atomic : ∀ id ∈ ids, ∃ token, vocabulary.tokenOf? id = some token ∧ Atomic generation.splitMarks token) :
    ∃ text, vocabulary.decode generation ids = .ok text ∧
      ∃ keys, vocabulary.encode generation text = .ok keys ∧
        List.Forall₂ (fun key id => key.same id = true) keys ids := by
  let tokenOf (id : Key) : String := (vocabulary.tokenOf? id).getD ""
  let keyOf (token : String) : Key := (vocabulary.keyOf? token).getD .none
  -- for each identifier, its token and the identifier encoding gives that token
  have each : ∀ id ∈ ids, vocabulary.tokenOf? id = some (tokenOf id) ∧
      Atomic generation.splitMarks (tokenOf id) ∧ vocabulary.keyOf? (tokenOf id) = some (keyOf (tokenOf id)) ∧
      (keyOf (tokenOf id)).same id = true := by
    intro id member
    obtain ⟨token, found, atomicToken⟩ := atomic id member
    obtain ⟨key, keyFound, same⟩ := Vocabulary.keyOf?_of_tokenOf? dict found
    simp [tokenOf, keyOf, found, atomicToken, keyFound, same]
  have tokensAtomic : ∀ token ∈ ids.map tokenOf, Atomic generation.splitMarks token := by
    simpa using fun id member => (each id member).2.1
  have tokensKnown : ∀ token ∈ ids.map tokenOf, (vocabulary.keyOf? token).isSome := by
    simpa using fun id member => by simp [(each id member).2.2.1]
  refine ⟨generation.join (ids.map tokenOf), Vocabulary.decode_eq_ok_iff.mpr ⟨ids.map tokenOf, ?_, rfl⟩,
    (ids.map tokenOf).map keyOf, ?_, ?_⟩
  · simpa [List.forall₂_same] using fun id member => (each id member).1
  · rw [Vocabulary.encode_eq_ok_iff, generation.split_join _ tokensAtomic,
      Vocabulary.spell_of_known tokensKnown]
    simpa [List.forall₂_same] using fun id member => (each id member).2.2.1
  · simpa [List.forall₂_same] using fun id member => (each id member).2.2.2

/-- When identifiers name entries one for one, encoding a text, decoding the identifiers and
encoding again gives the same identifiers, as long as every piece of the text is listed, or the
second generation spells the unlisted ones as a listed unknown token. -/
theorem encode_decode_encode {vocabulary : Vocabulary} (dict : (vocabulary.entries.map Prod.fst).Nodup)
    (distinct : vocabulary.IdsDistinct) (generation : Generation) (text : String)
    (covered : (∀ piece ∈ generation.split text, (vocabulary.keyOf? piece).isSome) ∨
      (generation = .second ∧ (vocabulary.keyOf? unknownToken).isSome)) :
    ∃ keys, vocabulary.encode generation text = .ok keys ∧
      ∃ decoded, vocabulary.decode generation keys = .ok decoded ∧
        vocabulary.encode generation decoded = .ok keys := by
  let spelled := vocabulary.spell generation (generation.split text)
  -- every piece that encoding looks up is listed and atomic
  have listed : ∀ piece ∈ spelled, (vocabulary.keyOf? piece).isSome ∧ Atomic generation.splitMarks piece := by
    rcases covered with known | ⟨rfl, unknownListed⟩
    · intro piece member
      rw [show spelled = _ from Vocabulary.spell_of_known known] at member
      exact ⟨known piece member, generation.split_atomic text piece member⟩
    · intro piece member
      simp only [spelled, Vocabulary.spell, List.mem_map] at member
      obtain ⟨original, member, rfl⟩ := member
      by_cases known : (vocabulary.keyOf? original).isSome
      · rw [if_pos known]
        exact ⟨known, Generation.second.split_atomic text original member⟩
      · rw [if_neg known]
        exact ⟨unknownListed, unknownToken_atomic .second⟩
  let keys := spelled.map fun piece => (vocabulary.keyOf? piece).getD .none
  have looked : List.Forall₂ (fun piece key => vocabulary.keyOf? piece = some key) spelled keys := by
    simpa [keys, List.forall₂_same] using fun piece member => by
      obtain ⟨key, found⟩ := Option.isSome_iff_exists.mp (listed piece member).1
      simp [found]
  refine ⟨keys, Vocabulary.encode_eq_ok_iff.mpr looked, generation.join spelled,
    Vocabulary.decode_eq_ok_iff.mpr ⟨spelled, ?_, rfl⟩, ?_⟩
  · -- each identifier gives back the piece it was looked up from
    exact List.Forall₂.flip (looked.imp fun piece key found =>
      Vocabulary.tokenOf?_of_mem distinct ((Vocabulary.keyOf?_eq_some_iff dict).mp found))
  · rw [Vocabulary.encode_eq_ok_iff, generation.split_join spelled fun piece member => (listed piece member).2,
      Vocabulary.spell_of_known fun piece member => (listed piece member).1]
    exact looked

/-- Decoding and encoding again gives back identifiers whose tokens are atomic; encoding a text,
decoding and encoding again gives the same identifiers when identifiers name entries one for
one and every piece is listed, or, for the second generation, the unknown token is. -/
theorem encode_decode_round_trip (generation : Generation) (vocabulary : Vocabulary)
    (dict : (vocabulary.entries.map Prod.fst).Nodup) :
    (∀ ids : List Key, (∀ id ∈ ids, ∃ token, vocabulary.tokenOf? id = some token ∧
        Atomic generation.splitMarks token) →
      ∃ text, vocabulary.decode generation ids = .ok text ∧
        ∃ keys, vocabulary.encode generation text = .ok keys ∧
          List.Forall₂ (fun key id => key.same id = true) keys ids) ∧
    (vocabulary.IdsDistinct → ∀ text : String,
      ((∀ piece ∈ generation.split text, (vocabulary.keyOf? piece).isSome) ∨
        (generation = .second ∧ (vocabulary.keyOf? unknownToken).isSome)) →
      ∃ keys, vocabulary.encode generation text = .ok keys ∧
        ∃ decoded, vocabulary.decode generation keys = .ok decoded ∧
          vocabulary.encode generation decoded = .ok keys) :=
  ⟨encode_decode_atomic dict generation, fun distinct => encode_decode_encode dict distinct generation⟩

theorem encode_decode_round_trip_marks :
    ([("--", Key.int 0), (",", Key.int 1)].map Prod.fst).Nodup ∧
      (∃ text, (Vocabulary.mk [("--", .int 0), (",", .int 1)]).decode .first [.int 1, .int 0] = .ok text ∧
        ∃ keys, (Vocabulary.mk [("--", .int 0), (",", .int 1)]).encode .first text = .ok keys ∧
          List.Forall₂ (fun key id => key.same id = true) keys [.int 1, .int 0]) ∧
      (Vocabulary.mk [("--", .int 0), (",", .int 1)]).IdsDistinct ∧
      (∀ piece ∈ Generation.first.split ", --",
        ((Vocabulary.mk [("--", .int 0), (",", .int 1)]).keyOf? piece).isSome) ∧
      ∃ keys, (Vocabulary.mk [("--", .int 0), (",", .int 1)]).encode .first ", --" = .ok keys ∧
        ∃ decoded, (Vocabulary.mk [("--", .int 0), (",", .int 1)]).decode .first keys = .ok decoded ∧
          (Vocabulary.mk [("--", .int 0), (",", .int 1)]).encode .first decoded = .ok keys := by
  have dict : ([("--", Key.int 0), (",", Key.int 1)].map Prod.fst).Nodup := by simp
  have round := encode_decode_round_trip .first ⟨[("--", .int 0), (",", .int 1)]⟩ dict
  -- the two marks are atomic and listed, each under an identifier of its own
  have atomic : ∀ id ∈ [Key.int 1, .int 0], ∃ token,
      (Vocabulary.mk [("--", .int 0), (",", .int 1)]).tokenOf? id = some token ∧
        Atomic Generation.first.splitMarks token := by
    simp only [List.forall_mem_cons, List.not_mem_nil, IsEmpty.forall_iff, implies_true, and_true]
    exact ⟨⟨",", by simp [Vocabulary.tokenOf?, Key.same, Key.number?, Number.equals],
        @Atomic.mark _ ',' (by simp [Generation.splitMarks])⟩,
      ⟨"--", by simp [Vocabulary.tokenOf?, Key.same, Key.number?, Number.equals], .dash⟩⟩
  have distinct : (Vocabulary.mk [("--", .int 0), (",", .int 1)]).IdsDistinct := by
    simp [Vocabulary.IdsDistinct, Key.same, Key.number?, Number.equals]
  have covered : ∀ piece ∈ Generation.first.split ", --",
      ((Vocabulary.mk [("--", .int 0), (",", .int 1)]).keyOf? piece).isSome := by
    rw [show Generation.first.split ", --" = [",", "--"] by decide +kernel]
    simp [Vocabulary.keyOf?]
  exact ⟨dict, round.1 _ atomic, distinct, covered, round.2 distinct ", --" (.inl covered)⟩

theorem decode_shared_id_breaks_encode :
    (Vocabulary.mk [("a", .int 0), ("b c", .int 0)]).encode .first "a" = .ok [.int 0] ∧
      (Vocabulary.mk [("a", .int 0), ("b c", .int 0)]).decode .first [.int 0] = .ok "b c" ∧
      (Vocabulary.mk [("a", .int 0), ("b c", .int 0)]).encode .first "b c" =
        .error (.unknownPiece "b") := by
  have splitA : Generation.first.split "a" = ["a"] := by decide +kernel
  have splitBC : Generation.first.split "b c" = ["b", "c"] := by decide +kernel
  have joined : Generation.first.join ["b c"] = "b c" := by decide +kernel
  have keyA : (Vocabulary.mk [("a", .int 0), ("b c", .int 0)]).keyOf? "a" = some (.int 0) := by
    simp [Vocabulary.keyOf?]
  have keyB : (Vocabulary.mk [("a", .int 0), ("b c", .int 0)]).keyOf? "b" = none := by
    simp [Vocabulary.keyOf?]
  have tokenZero : (Vocabulary.mk [("a", .int 0), ("b c", .int 0)]).tokenOf? (.int 0) = some "b c" := by
    simp [Vocabulary.tokenOf?, Key.same, Key.number?, Number.equals]
  refine ⟨?_, ?_, ?_⟩
  · rw [Vocabulary.encode_eq_ok_iff, splitA]
    simpa [Vocabulary.spell] using keyA
  · exact Vocabulary.decode_eq_ok_iff.mpr ⟨["b c"], by simpa using tokenZero, joined.symm⟩
  · simp [Vocabulary.encode, splitBC, keyB, bind, Except.bind]

end Listening.Tokenizer
