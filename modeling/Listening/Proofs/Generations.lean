import Listening.Proofs.TokenRoundTrip

/-!
# The two generations of the tokenizer agree without colons and semicolons

The second generation of the tokenizer differs from the first in three places: it also splits
at `:` and `;`, it also drops the blanks before them when joining, and it spells every piece
missing from the vocabulary as the unknown token before looking the pieces up. On a text
without `:` and `;` the two mark lists name the same characters, so both generations split it
alike (`Generation.split_first_eq_second`); when every piece is listed the spelling changes
nothing, so both encode it alike. Decoding identifiers whose tokens have no `:` or `;` joins a
text without them, on which the two closing lists agree as well (`Generation.join_first_eq_second`).

Both facts rest on one congruence each: splitting and dropping blanks look at their mark list
only through the characters they read (`splitFrom_congr`, `dropBlanksFrom_congr`).
-/

namespace Listening.Tokenizer

open Listening.Text

/-- Splitting reads its marks only at the characters of the text: two mark lists that agree
there split it alike. -/
theorem splitFrom_congr {marks marks' : List Char} (word text : List Char)
    (agree : ∀ c ∈ text, marks.contains c = marks'.contains c) :
    splitFrom marks word text = splitFrom marks' word text := by
  fun_induction splitFrom marks word text with
  | case1 word => simp
  | case2 word rest ih =>
    rw [splitFrom_dash, ih fun c member => agree c (by simp [member])]
  | case3 word c rest notDouble mark ih =>
    have mark' : marks'.contains c = true := (agree c List.mem_cons_self) ▸ mark
    rw [splitFrom.eq_3 marks' word c rest notDouble, if_pos mark',
      ih fun d member => agree d (List.mem_cons_of_mem c member)]
  | case4 word c rest notDouble notMark blank ih =>
    have notMark' : ¬ marks'.contains c = true := (agree c List.mem_cons_self) ▸ notMark
    rw [splitFrom.eq_3 marks' word c rest notDouble, if_neg notMark', if_pos blank,
      ih fun d member => agree d (List.mem_cons_of_mem c member)]
  | case5 word c rest notDouble notMark solid ih =>
    have notMark' : ¬ marks'.contains c = true := (agree c List.mem_cons_self) ▸ notMark
    rw [splitFrom.eq_3 marks' word c rest notDouble, if_neg notMark', if_neg solid,
      ih fun d member => agree d (List.mem_cons_of_mem c member)]

/-- Dropping blanks reads its marks only at the characters of the text as well. -/
theorem dropBlanksFrom_congr {marks marks' : List Char} (pending text : List Char)
    (agree : ∀ c ∈ text, marks.contains c = marks'.contains c) :
    dropBlanksFrom marks pending text = dropBlanksFrom marks' pending text := by
  fun_induction dropBlanksFrom marks pending text with
  | case1 pending => rfl
  | case2 pending c rest blank ih =>
    rw [dropBlanksFrom, if_pos blank, ih fun d member => agree d (List.mem_cons_of_mem c member)]
  | case3 pending c rest solid mark ih =>
    have mark' : marks'.contains c = true := (agree c List.mem_cons_self) ▸ mark
    rw [dropBlanksFrom, if_neg solid, if_pos mark',
      ih fun d member => agree d (List.mem_cons_of_mem c member)]
  | case4 pending c rest solid notMark ih =>
    have notMark' : ¬ marks'.contains c = true := (agree c List.mem_cons_self) ▸ notMark
    rw [dropBlanksFrom, if_neg solid, if_neg notMark',
      ih fun d member => agree d (List.mem_cons_of_mem c member)]

/-- A character of texts joined by spaces is a space or a character of one of the texts. -/
theorem mem_intercalate_space {c : Char} :
    ∀ {texts : List String}, c ∈ (" ".intercalate texts).toList →
      c = ' ' ∨ ∃ text ∈ texts, c ∈ text.toList
  | [], member => by simp at member
  | [text], member => .inr ⟨text, List.mem_singleton_self text, by simpa using member⟩
  | text :: next :: more, member => by
    rw [String.intercalate_cons_cons, String.toList_append, String.toList_append] at member
    rcases List.mem_append.mp member with front | later
    · rcases List.mem_append.mp front with inText | space
      · exact .inr ⟨text, List.mem_cons_self, inText⟩
      · exact .inl (by simpa using space)
    · rcases mem_intercalate_space later with space | ⟨other, inside, inOther⟩
      · exact .inl space
      · exact .inr ⟨other, List.mem_cons_of_mem text inside, inOther⟩

namespace Generation

/-- Off `:` and `;` the two generations split at the same characters. -/
theorem splitMarks_agree {c : Char} (notColon : c ≠ ':') (notSemicolon : c ≠ ';') :
    first.splitMarks.contains c = second.splitMarks.contains c := by
  simp [splitMarks, notColon, notSemicolon]

/-- Off `:` and `;` the two generations drop blanks before the same characters. -/
theorem closingMarks_agree {c : Char} (notColon : c ≠ ':') (notSemicolon : c ≠ ';') :
    first.closingMarks.contains c = second.closingMarks.contains c := by
  simp [closingMarks, notColon, notSemicolon]

/-- A text without `:` and `;` splits into the same pieces in both generations. -/
theorem split_first_eq_second {text : String} (noColon : ':' ∉ text.toList)
    (noSemicolon : ';' ∉ text.toList) : first.split text = second.split text :=
  splitFrom_congr [] text.toList fun _ member =>
    splitMarks_agree (fun same => noColon (same ▸ member)) fun same => noSemicolon (same ▸ member)

/-- Tokens without `:` and `;` join into the same text in both generations. -/
theorem join_first_eq_second {tokens : List String}
    (plain : ∀ token ∈ tokens, ':' ∉ token.toList ∧ ';' ∉ token.toList) :
    first.join tokens = second.join tokens := by
  -- every character of the spaced text is a space or a character of a token
  have agree : ∀ c ∈ (" ".intercalate tokens).toList,
      first.closingMarks.contains c = second.closingMarks.contains c := by
    intro c member
    rcases mem_intercalate_space member with rfl | ⟨token, listed, inToken⟩
    · decide
    · obtain ⟨noColon, noSemicolon⟩ := plain token listed
      exact closingMarks_agree (fun same => noColon (same ▸ inToken))
        fun same => noSemicolon (same ▸ inToken)
  rw [join, join, dropBlanksFrom_congr [] _ agree]

end Generation

/-- Mapping a result in `Except` by two functions that agree on it gives the same result. -/
theorem map_congr_of_ok {α β ε : Type} {x : Except ε α} {f g : α → β}
    (same : ∀ a, x = .ok a → f a = g a) : x.map f = x.map g := by
  cases x with
  | error fault => rfl
  | ok a => simp [Except.map, same a rfl]

namespace Vocabulary

variable {vocabulary : Vocabulary}

/-- Encoding looks up, one by one, the pieces as the generation spells them. -/
theorem encode_eq_mapM (generation : Generation) (text : String) :
    vocabulary.encode generation text =
      (vocabulary.spell generation (generation.split text)).mapM fun piece =>
        match vocabulary.keyOf? piece with
        | some key => .ok key
        | none => .error (.unknownPiece piece) := by
  cases generation <;> rfl

/-- A token that decoding finds for a list of identifiers is the token of one of them. -/
theorem mem_of_tokens {keys : List Key} {tokens : List String}
    (found : List.Forall₂ (fun key token => vocabulary.tokenOf? key = some token) keys tokens)
    {token : String} (member : token ∈ tokens) : ∃ key ∈ keys, vocabulary.tokenOf? key = some token := by
  induction found with
  | nil => cases member
  | @cons key token' keys tokens head _ rest =>
    rcases List.mem_cons.mp member with rfl | later
    · exact ⟨key, List.mem_cons_self, head⟩
    · obtain ⟨other, inside, tokenOf⟩ := rest later
      exact ⟨other, List.mem_cons_of_mem key inside, tokenOf⟩

/-- Two generations decode alike when they join alike the tokens that the identifiers have;
where an identifier has none, both fail on it. -/
theorem decode_congr {generation generation' : Generation} {keys : List Key}
    (joins : ∀ tokens, List.Forall₂ (fun key token => vocabulary.tokenOf? key = some token) keys tokens →
      generation.join tokens = generation'.join tokens) :
    vocabulary.decode generation keys = vocabulary.decode generation' keys := by
  simp only [decode]
  refine map_congr_of_ok fun tokens looked => joins tokens ?_
  -- each step of the traversal is a lookup that fails with the identifier
  exact (mapM_eq_ok_iff.mp looked).imp fun key token step => by
    cases found : vocabulary.tokenOf? key <;> simp_all

end Vocabulary

/-- The two generations of the tokenizer agree away from `:` and `;`. A text without them whose
pieces are all listed encodes to the same identifiers in both, and identifiers whose tokens have
neither decode to the same text in both; where a step fails, both fail alike. -/
theorem generations_agree_without_colons :
    (∀ (vocabulary : Vocabulary) (text : String), ':' ∉ text.toList → ';' ∉ text.toList →
      (∀ piece ∈ Generation.first.split text, (vocabulary.keyOf? piece).isSome) →
        vocabulary.encode .first text = vocabulary.encode .second text) ∧
    (∀ (vocabulary : Vocabulary) (keys : List Key),
      (∀ key ∈ keys, ∀ token, vocabulary.tokenOf? key = some token →
        ':' ∉ token.toList ∧ ';' ∉ token.toList) →
        vocabulary.decode .first keys = vocabulary.decode .second keys) := by
  refine ⟨fun vocabulary text noColon noSemicolon known => ?_, fun vocabulary keys plain => ?_⟩
  · have sameSplit := Generation.split_first_eq_second noColon noSemicolon
    rw [Vocabulary.encode_eq_mapM, Vocabulary.encode_eq_mapM, ← sameSplit,
      @Vocabulary.spell_of_known vocabulary .second _ known]
    rfl
  · refine Vocabulary.decode_congr fun tokens found => Generation.join_first_eq_second ?_
    -- the tokens found are tokens of the identifiers, so they have no `:` or `;`
    intro token member
    obtain ⟨key, listed, tokenOf⟩ := Vocabulary.mem_of_tokens found member
    exact plain key listed token tokenOf

theorem generations_agree_on_greeting :
    (∀ piece ∈ Generation.first.split "Hello, world",
        ((Vocabulary.mk [("Hello", .int 0), (",", .int 1), ("world", .int 2)]).keyOf? piece).isSome) ∧
      (Vocabulary.mk [("Hello", .int 0), (",", .int 1), ("world", .int 2)]).encode .first "Hello, world" =
        (Vocabulary.mk [("Hello", .int 0), (",", .int 1), ("world", .int 2)]).encode .second "Hello, world" ∧
      (Vocabulary.mk [("Hello", .int 0), (",", .int 1), ("world", .int 2)]).decode .first
          [.int 0, .int 1, .int 2] =
        (Vocabulary.mk [("Hello", .int 0), (",", .int 1), ("world", .int 2)]).decode .second
          [.int 0, .int 1, .int 2] := by
  have pieces : Generation.first.split "Hello, world" = ["Hello", ",", "world"] := by decide +kernel
  have known : ∀ piece ∈ Generation.first.split "Hello, world",
      ((Vocabulary.mk [("Hello", .int 0), (",", .int 1), ("world", .int 2)]).keyOf? piece).isSome := by
    rw [pieces]
    simp [Vocabulary.keyOf?]
  refine ⟨known, generations_agree_without_colons.1 _ _ (by decide +kernel) (by decide +kernel) known,
    generations_agree_without_colons.2 _ _ ?_⟩
  simp [Vocabulary.tokenOf?, Key.same, Key.number?, Number.equals]

end Listening.Tokenizer
