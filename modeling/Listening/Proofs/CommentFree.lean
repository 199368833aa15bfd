import Listening.Proofs.Dialects

/-!
# Removing comments leaves none

A text holds a comment when an opening `<<<` stands before a closing `>>>` that starts three or
more characters after it (`Commented`). Removing comments scans from the left and drops each
comment whole, so one might expect the text on the two sides of a removed comment to join into
a new one. It never does (`stripComments_uncommented`): a kept less-than sign never stands right
before a removed comment, since the scan would have opened the comment there
(`lt_lt_head_of_stripComments`), and an opening that never closes keeps the rest of the text,
which then holds no closing mark at all. A text without comments is kept as it is
(`stripComments_of_uncommented`), so removing comments twice is removing them once
(`removeComments_uncommented`).
-/

namespace Listening.Query

/-- A text holds a comment when an opening `<<<` stands before a closing `>>>` that starts three
or more characters after it. -/
def Commented (text : List Char) : Prop :=
  ∃ pre mid post, text = pre ++ '<' :: '<' :: '<' :: (mid ++ '>' :: '>' :: '>' :: post)

/-- The text after the first closing mark follows that mark. -/
theorem afterClosing_eq_some {text rest : List Char} (found : afterClosing text = some rest) :
    ∃ mid, text = mid ++ '>' :: '>' :: '>' :: rest := by
  induction text with
  | nil => cases found
  | cons c more moreClosing =>
    unfold afterClosing at found
    split at found
    · rename_i closes
      cases found
      simp only [Bool.and_eq_true, decide_eq_true_eq] at closes
      obtain ⟨rfl, marks⟩ := closes
      refine ⟨[], ?_⟩
      rw [← List.take_append_drop 2 more, marks]
      rfl
    · obtain ⟨mid, rfl⟩ := moreClosing found
      exact ⟨c :: mid, rfl⟩

/-- A text holding a closing mark has a first one. -/
theorem afterClosing_isSome (mid post : List Char) :
    (afterClosing (mid ++ '>' :: '>' :: '>' :: post)).isSome := by
  induction mid with
  | nil => simp [afterClosing]
  | cons c more moreFound =>
    rw [List.cons_append, afterClosing]
    split
    · rfl
    · exact moreFound

namespace Commented

theorem cons {text : List Char} (c : Char) (commented : Commented text) :
    Commented (c :: text) := by
  obtain ⟨pre, mid, post, rfl⟩ := commented
  exact ⟨c :: pre, mid, post, rfl⟩

/-- A comment in a text with one more character in front either opens at that character, the
text going on with two more less-than signs, or lies in the text. -/
theorem of_cons {c : Char} {text : List Char} (commented : Commented (c :: text)) :
    (c = '<' ∧ ∃ rest, text = '<' :: '<' :: rest) ∨ Commented text := by
  obtain ⟨pre, mid, post, same⟩ := commented
  cases pre with
  | nil =>
    obtain ⟨rfl, rfl⟩ := List.cons.inj same
    exact .inl ⟨rfl, _, rfl⟩
  | cons first pre =>
    obtain ⟨-, rfl⟩ := List.cons.inj same
    exact .inr ⟨pre, mid, post, rfl⟩

/-- A comment closes three or more characters after the start of the text. -/
theorem closes_after_opening {text : List Char} (commented : Commented text) :
    ∃ mid post, text.drop 3 = mid ++ '>' :: '>' :: '>' :: post := by
  obtain ⟨pre, mid, post, rfl⟩ := commented
  have long : 3 ≤ (pre ++ '<' :: '<' :: '<' :: mid).length := by simp; omega
  refine ⟨(pre ++ '<' :: '<' :: '<' :: mid).drop 3, post, ?_⟩
  have regroup : pre ++ '<' :: '<' :: '<' :: (mid ++ '>' :: '>' :: '>' :: post) =
      (pre ++ '<' :: '<' :: '<' :: mid) ++ '>' :: '>' :: '>' :: post := by simp
  rw [regroup, List.drop_append_of_le_length long]

end Commented

/-- A text that has lost its comments starts with a less-than sign only where the text did. -/
theorem lt_head_of_stripComments {text rest : List Char}
    (starts : stripComments text = '<' :: rest) : ∃ more, text = '<' :: more := by
  fun_induction stripComments text generalizing rest with
  | case1 => cases starts
  | case2 rest => exact ⟨_, rfl⟩
  | case3 rest => exact ⟨_, rfl⟩
  | case4 c more =>
    obtain ⟨rfl, -⟩ := List.cons.inj starts
    exact ⟨more, rfl⟩

/-- A text that has lost its comments starts with two less-than signs only where the text did. -/
theorem lt_lt_head_of_stripComments {text rest : List Char}
    (starts : stripComments text = '<' :: '<' :: rest) : ∃ more, text = '<' :: '<' :: more := by
  fun_induction stripComments text generalizing rest with
  | case1 => cases starts
  | case2 rest => exact ⟨_, rfl⟩
  | case3 rest => exact ⟨_, rfl⟩
  | case4 c more =>
    obtain ⟨rfl, second⟩ := List.cons.inj starts
    obtain ⟨after, rfl⟩ := lt_head_of_stripComments second
    exact ⟨after, rfl⟩

/-- Removing comments leaves no comment, also none made of the text on both sides of a removed
one. -/
theorem stripComments_uncommented (text : List Char) : ¬ Commented (stripComments text) := by
  fun_induction stripComments text with
  | case1 =>
    rintro ⟨pre, mid, post, empty⟩
    simp at empty
  | case2 rest after found _ kept => exact kept
  | case3 rest missing =>
    -- What follows an opening that never closes holds no closing mark.
    intro commented
    obtain ⟨mid, post, closing⟩ := commented.closes_after_opening
    have found := afterClosing_isSome mid post
    rw [← closing, List.drop_succ_cons, List.drop_succ_cons, List.drop_succ_cons, List.drop_zero,
      missing] at found
    cases found
  | case4 c rest notOpening kept =>
    -- A comment opening at `c` needs two more less-than signs, and `rest` would then start with
    -- them, so `c :: rest` would have opened a comment itself.
    intro commented
    rcases commented.of_cons with ⟨opening, more, starts⟩ | later
    · obtain ⟨after, rest_eq⟩ := lt_lt_head_of_stripComments starts
      exact notOpening after opening rest_eq
    · exact kept later

/-- Removing comments from a text that holds none changes nothing. -/
theorem stripComments_of_uncommented {text : List Char} (clean : ¬ Commented text) :
    stripComments text = text := by
  fun_induction stripComments text with
  | case1 => rfl
  | case2 rest after found =>
    obtain ⟨mid, rfl⟩ := afterClosing_eq_some found
    exact absurd ⟨[], mid, after, rfl⟩ clean
  | case3 => rfl
  | case4 c rest _ kept => rw [kept fun commented => clean (commented.cons c)]

/-- A text without its comments holds no `<<<` with a `>>>` three or more characters later, not even
one joined from the text around removed comments, so removing comments again changes nothing. -/
theorem removeComments_uncommented (text : String) :
    ¬ Commented (removeComments text).toList ∧
      removeComments (removeComments text) = removeComments text := by
  have clean : ¬ Commented (removeComments text).toList := by
    rw [removeComments, String.toList_ofList]
    exact stripComments_uncommented text.toList
  refine ⟨clean, ?_⟩
  change String.ofList (stripComments (removeComments text).toList) = _
  rw [stripComments_of_uncommented clean, String.ofList_toList]

end Listening.Query
