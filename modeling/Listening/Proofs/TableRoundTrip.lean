import Listening.Table.Csv

/-!
# Tables read back as they were written

Records written one after another read back as the same records (`readRecords_writeRecords`)
when no field is longer than the reader's limit: a field that holds a comma, a quote or a line
end is quoted with its quotes doubled, and the reader gives every such field back, line ends and
all; a record of one empty field is written `""` because an empty line reads as an empty record.
Conversely the reader never gives a field longer than the limit (`readRecords_fits`): it refuses
to add a character to a field that already has as many, and every step keeps the fields it has
read within the limit (`Reader.Fits`).

The reader takes a text line by line. A line feed inside a quoted field leaves the reader inside
that field, and every other line feed ends a record, so for a text whose lines all end with a
line feed the lines can be forgotten: reading it by lines is reading it character by character
and closing the record at each line feed that ends one (`scanLines`, `recordsFrom_linesFrom`).
The round trip is then a fact about one field (`scanLines_writeField`), what ends it
(`scanLines_comma`, `scanLines_lineEnd`) and one record (`scanLines_writeRecord`).
-/

namespace Listening.Table

/-- Reads characters the way the line reader reads their lines: each line feed ends a line, and
closes the record when the reader is left at the start of one. -/
def scanLines (reader : Reader) : List Char → List (List String) × Option String
  | [] => recordsFrom reader []
  | c :: rest =>
    match reader.step c with
    | .error message => ([], some message)
    | .ok next =>
      if c = '\n' then
        if next.endLine.state == .startRecord then
          let (more, failure) := scanLines {} rest
          (next.endLine.fields.reverse :: more, failure)
        else scanLines next.endLine rest
      else scanLines next rest

section Lines

theorem ok_bind {ε α β : Type} (a : α) (f : α → Except ε β) : (Except.ok a >>= f) = f a := rfl

/-- Reading a line and then one more character. -/
theorem foldlM_step_concat (chars : List Char) (c : Char) (reader : Reader) :
    (chars ++ [c]).foldlM Reader.step reader = chars.foldlM Reader.step reader >>= (·.step c) := by
  simp only [List.foldlM_append, List.foldlM_cons, List.foldlM_nil, bind_pure]

/-- Reading the lines of a text that ends with a line feed, after a line begun with `current`, is
reading its characters after that beginning. -/
theorem recordsFrom_linesFrom :
    ∀ (chars current : List Char) (reader : Reader), '\n' ∉ current →
      (chars = [] ∧ current = [] ∨ ∃ pre, chars = pre ++ ['\n']) →
      recordsFrom reader (linesFrom current chars) =
        match current.reverse.foldlM Reader.step reader with
        | .error message => ([], some message)
        | .ok read => scanLines read chars
  | [], current, reader, _, ended => by
    -- an empty text ends no line, so nothing was begun
    have begun : current = [] := by
      rcases ended with ⟨-, none⟩ | ⟨pre, ends⟩
      · exact none
      · simp at ends
    subst begun
    rfl
  | c :: rest, current, reader, free, ended => by
    have restEnds : rest = [] ∨ ∃ pre, rest = pre ++ ['\n'] := by
      rcases ended with ⟨nil, -⟩ | ⟨pre, ends⟩
      · cases nil
      · cases pre with
        | nil => exact Or.inl (List.cons_eq_cons.mp ends).2
        | cons d pre => exact Or.inr ⟨pre, (List.cons_eq_cons.mp ends).2⟩
    by_cases newline : c = '\n'
    · subst newline
      -- the line ends here; the lines after it are read from a fresh beginning
      have later : ∀ next, recordsFrom next (linesFrom [] rest) = scanLines next rest :=
        fun next => recordsFrom_linesFrom rest [] next List.not_mem_nil
          (restEnds.imp (fun nil => ⟨nil, rfl⟩) id)
      simp only [linesFrom, if_pos, recordsFrom, List.reverse_cons, foldlM_step_concat]
      cases current.reverse.foldlM Reader.step reader with
      | error message => rfl
      | ok read =>
        simp only [ok_bind, scanLines, if_pos]
        cases read.step '\n' with
        | error message => rfl
        | ok next => simp only [later]
    · have longer : '\n' ∉ c :: current := by
        simp [Ne.symm newline, free]
      have continued : rest = [] ∧ c :: current = [] ∨ ∃ pre, rest = pre ++ ['\n'] := by
        rcases restEnds with nil | ends
        · rcases ended with ⟨nil', -⟩ | ⟨pre, ends⟩
          · cases nil'
          · subst nil
            cases pre with
            | nil => exact absurd (List.cons_eq_cons.mp ends).1 newline
            | cons d pre => simp at ends
        · exact Or.inr ends
      simp only [linesFrom, if_neg newline]
      rw [recordsFrom_linesFrom rest (c :: current) reader longer continued, List.reverse_cons,
        foldlM_step_concat]
      cases current.reverse.foldlM Reader.step reader with
      | error message => rfl
      | ok read => simp only [ok_bind, scanLines, if_neg newline]

end Lines

section Fields

/-- A character a field may hold without being quoted. -/
def PlainChar (c : Char) : Prop :=
  c ≠ ',' ∧ c ≠ '"' ∧ c ≠ '\r' ∧ c ≠ '\n'

/-- The characters of a quoted field between its quotes: its own, each quote doubled. -/
def doubledQuotes (chars : List Char) : List Char :=
  chars.flatMap fun c => if c = '"' then ['"', '"'] else [c]

theorem toList_writeField (field : String) :
    (writeField field).toList =
      if needsQuotes field then '"' :: doubledQuotes field.toList ++ ['"'] else field.toList := by
  unfold writeField doubledQuotes
  split
  · simp only [String.toList_append, String.toList_join, List.flatMap_map]
    have quote : "\"".toList = ['"'] := by decide
    have doubled : "\"\"".toList = ['"', '"'] := by decide
    simp only [quote, List.cons_append, List.nil_append]
    congr 2
    apply congrArg (fun each => List.flatMap each field.toList)
    funext c
    by_cases same : c = '"'
    · simp [same, doubled]
    · simp [same, Char.toString]
  · rfl

theorem plainChar_of_needsQuotes {field : String} (plain : needsQuotes field = false) :
    ∀ c ∈ field.toList, PlainChar c := by
  intro c member
  have kept := List.any_eq_false.mp plain c member
  simp only [Bool.or_eq_true, beq_iff_eq, not_or] at kept
  exact ⟨kept.1.1.1, kept.1.1.2, kept.1.2, kept.2⟩

/-- The reader after the written form of a field, read from the start of a field in state
`start` after the fields `done` (last first): a quoted field after its closing quote, any other
as it stands. -/
def holding (start : ReadState) (done : List String) (field : String) : Reader :=
  if needsQuotes field then ⟨.quoteInQuoted, field.toList.reverse, done, field.length⟩
  else if field.toList = [] then ⟨start, [], done, 0⟩
  else ⟨.inField, field.toList.reverse, done, field.length⟩

/-- Inside quotes every character is kept, a doubled quote as one quote, and a line feed does not
end the line's record, as long as the field stays within the limit. -/
theorem scanLines_doubledQuotes (more : List Char) :
    ∀ (chars field : List Char) (fields : List String), field.length + chars.length ≤ fieldLimit →
      scanLines ⟨.inQuoted, field, fields, field.length⟩ (doubledQuotes chars ++ more) =
        scanLines ⟨.inQuoted, chars.reverse ++ field, fields, field.length + chars.length⟩ more
  | [], field, fields, _ => rfl
  | c :: chars, field, fields, fits => by
    have room : field.length < fieldLimit := by
      simp only [List.length_cons] at fits
      omega
    have next := scanLines_doubledQuotes more chars (c :: field) fields
      (by simp only [List.length_cons] at fits ⊢; omega)
    simp only [List.reverse_cons, List.append_assoc, List.cons_append, List.nil_append,
      List.length_cons] at next ⊢
    rw [show field.length + (chars.length + 1) = field.length + 1 + chars.length by omega, ← next]
    by_cases quote : c = '"'
    · subst quote
      simp [doubledQuotes, scanLines, Reader.step, Reader.fieldChar, Reader.push, room]
    · by_cases newline : c = '\n'
      · subst newline
        simp [doubledQuotes, scanLines, Reader.step, Reader.fieldChar, Reader.push,
          Reader.endLine, room]
      · simp [doubledQuotes, scanLines, Reader.step, Reader.fieldChar, Reader.push, quote,
          newline, room]

/-- Outside quotes a field's plain characters are kept as they come, as long as the field stays
within the limit. -/
theorem scanLines_plain (more : List Char) :
    ∀ (chars field : List Char) (fields : List String), (∀ c ∈ chars, PlainChar c) →
      field.length + chars.length ≤ fieldLimit →
      scanLines ⟨.inField, field, fields, field.length⟩ (chars ++ more) =
        scanLines ⟨.inField, chars.reverse ++ field, fields, field.length + chars.length⟩ more
  | [], field, fields, _, _ => rfl
  | c :: chars, field, fields, plain, fits => by
    obtain ⟨comma, quote, ret, newline⟩ := plain c List.mem_cons_self
    have room : field.length < fieldLimit := by
      simp only [List.length_cons] at fits
      omega
    have next := scanLines_plain more chars (c :: field) fields
      (fun d member => plain d (List.mem_cons_of_mem c member))
      (by simp only [List.length_cons] at fits ⊢; omega)
    simp only [List.reverse_cons, List.append_assoc, List.cons_append, List.nil_append,
      List.length_cons] at next ⊢
    rw [show field.length + (chars.length + 1) = field.length + 1 + chars.length by omega, ← next]
    simp [scanLines, Reader.step, Reader.fieldChar, Reader.isNewline, Reader.push, comma, ret,
      newline, room]

variable (more : List Char) {start : ReadState} (done : List String)

/-- A field's written form, read from the start of a field, leaves the reader holding it when it
fits the limit. -/
theorem scanLines_writeField (starting : start = .startRecord ∨ start = .startField)
    (field : String) (fits : field.length ≤ fieldLimit) :
    scanLines ⟨start, [], done, 0⟩ ((writeField field).toList ++ more) =
      scanLines (holding start done field) more := by
  rw [toList_writeField]
  unfold holding
  split
  · -- the opening quote, the inside, and the closing quote
    have opened : ∀ rest, scanLines ⟨start, [], done, 0⟩ ('"' :: rest) =
        scanLines ⟨.inQuoted, [], done, 0⟩ rest := by
      rcases starting with rfl | rfl <;> exact fun rest => rfl
    have inside := scanLines_doubledQuotes ('"' :: more) field.toList [] done
      (by simpa [String.length_toList] using fits)
    simp only [List.length_nil, Nat.zero_add, List.append_nil] at inside
    simp only [List.cons_append, List.append_assoc, List.nil_append, opened, inside]
    simp [scanLines, Reader.step, Reader.fieldChar, String.length_toList]
  · next plain =>
    have chars := plainChar_of_needsQuotes (Bool.eq_false_iff.mpr plain)
    split
    · next empty => rw [empty, List.nil_append]
    · next nonempty =>
      obtain ⟨c, rest, split⟩ := List.exists_cons_of_ne_nil nonempty
      have lengthSplit : field.length = rest.length + 1 := by
        rw [← String.length_toList, split, List.length_cons]
      rw [split] at chars ⊢
      obtain ⟨comma, quote, ret, newline⟩ := chars c List.mem_cons_self
      have room : 0 < fieldLimit := by decide
      have first : scanLines ⟨start, [], done, 0⟩ (c :: (rest ++ more)) =
          scanLines ⟨.inField, [c], done, 1⟩ (rest ++ more) := by
        rcases starting with rfl | rfl <;>
          simp [scanLines, Reader.step, Reader.fieldChar, Reader.isNewline, Reader.push, comma,
            quote, ret, newline, room]
      have kept := scanLines_plain more rest [c] done
        (fun d member => chars d (List.mem_cons_of_mem c member)) (by simp; omega)
      rw [List.length_singleton] at kept
      rw [List.cons_append, first, kept, List.reverse_cons, lengthSplit, Nat.add_comm]

/-- A comma after a field closes it. -/
theorem scanLines_comma (starting : start = .startRecord ∨ start = .startField) (field : String) :
    scanLines (holding start done field) (',' :: more) =
      scanLines ⟨.startField, [], field :: done, 0⟩ more := by
  unfold holding
  split
  · simp [scanLines, Reader.step, Reader.fieldChar, Reader.isNewline, Reader.save]
  · split
    · next empty =>
      have blank : field = "" := String.toList_inj.mp (by simpa using empty)
      subst blank
      rcases starting with rfl | rfl <;> rfl
    · simp [scanLines, Reader.step, Reader.fieldChar, Reader.isNewline, Reader.save]

/-- A line end after a field closes it and the record, unless the record is one empty field
at its start, which an empty line does not give. -/
theorem scanLines_lineEnd (field : String) (kept : start = .startField ∨ field.toList ≠ []) :
    scanLines (holding start done field) ('\r' :: '\n' :: more) =
      ((field :: done).reverse :: (scanLines {} more).1, (scanLines {} more).2) := by
  unfold holding
  split
  · simp [scanLines, Reader.step, Reader.fieldChar, Reader.isNewline, Reader.save,
      Reader.endLine]
  · split
    · next empty =>
      have blank : field = "" := String.toList_inj.mp (by simpa using empty)
      subst blank
      have started : start = .startField := kept.resolve_right (by simp)
      subst started
      simp [scanLines, Reader.step, Reader.fieldChar, Reader.isNewline, Reader.save,
        Reader.endLine]
    · simp [scanLines, Reader.step, Reader.fieldChar, Reader.isNewline, Reader.save,
        Reader.endLine]

end Fields

section Records

/-- Written fields joined by commas: the first, then a comma before each of the others. -/
theorem intercalate_comma (first : List Char) (rest : List (List Char)) :
    [','].intercalate (first :: rest) = first ++ rest.flatMap (',' :: ·) := by
  induction rest generalizing first with
  | nil => simp
  | cons next rest ih => simp [List.intercalate_cons_cons, ih]

/-- The written fields of a record after its first, each after a comma and before the line end,
read from the start of a field after the fields `done`, when every field fits the limit. -/
theorem scanLines_fields (more : List Char) :
    ∀ (rest : List String) (start : ReadState) (done : List String) (field : String),
      (start = .startRecord ∨ start = .startField) →
      (start = .startField ∨ field.toList ≠ [] ∨ rest ≠ []) →
      (∀ each ∈ field :: rest, each.length ≤ fieldLimit) →
      scanLines ⟨start, [], done, 0⟩ ((writeField field).toList ++
          (rest.flatMap fun next => ',' :: (writeField next).toList) ++ '\r' :: '\n' :: more) =
        ((done.reverse ++ field :: rest) :: (scanLines {} more).1, (scanLines {} more).2)
  | [], start, done, field, starting, kept, fits => by
    have ended : start = .startField ∨ field.toList ≠ [] := by simpa using kept
    rw [List.flatMap_nil, List.append_nil,
      scanLines_writeField _ done starting field (fits field List.mem_cons_self),
      scanLines_lineEnd _ done field ended]
    simp
  | next :: rest, start, done, field, starting, _, fits => by
    -- the comma closes this field and opens the next
    rw [List.flatMap_cons, List.cons_append, List.append_assoc, List.cons_append,
      scanLines_writeField _ done starting field (fits field List.mem_cons_self),
      scanLines_comma _ done starting,
      scanLines_fields more rest .startField (field :: done) next (Or.inr rfl) (Or.inl rfl)
        fun each member => fits each (List.mem_cons_of_mem field member)]
    simp

/-- A written record whose fields fit the limit reads back as itself, and the reader starts
afresh after it. -/
theorem scanLines_writeRecord (fields : List String) (more : List Char)
    (fits : ∀ field ∈ fields, field.length ≤ fieldLimit) :
    scanLines {} ((writeRecord fields).toList ++ more) =
      (fields :: (scanLines {} more).1, (scanLines {} more).2) := by
  have lineEnd : "\r\n".toList = ['\r', '\n'] := by decide
  unfold writeRecord
  rw [String.toList_append, lineEnd]
  split
  · next single =>
    -- one empty field is written as an empty quoted field
    have only : fields = [""] := by simpa using single
    subst only
    have quotes : "\"\"".toList = ['"', '"'] := by decide
    rw [quotes]
    simp [scanLines, Reader.step, Reader.fieldChar, Reader.isNewline, Reader.save, Reader.endLine]
  · next several =>
    cases fields with
    | nil =>
      simp [scanLines, Reader.step, Reader.fieldChar, Reader.isNewline, Reader.endLine]
    | cons field rest =>
      have kept : ReadState.startRecord = .startField ∨ field.toList ≠ [] ∨ rest ≠ [] := by
        by_cases empty : field.toList = []
        · have blank : field = "" := String.toList_inj.mp (by simpa using empty)
          subst blank
          cases rest with
          | nil => exact absurd rfl several
          | cons _ _ => simp
        · exact Or.inr (Or.inl empty)
      have comma : ",".toList = [','] := by decide
      rw [String.toList_intercalate, comma, List.map_map, List.map_cons, intercalate_comma,
        List.append_assoc, List.flatMap_map]
      exact scanLines_fields more rest .startRecord [] field (Or.inl rfl) kept fits

/-- Written records, one after another, end with a line feed unless there are none. -/
theorem writeRecords_ends (records : List (List String)) :
    records.flatMap (fun fields => (writeRecord fields).toList) = [] ∨
      ∃ pre, records.flatMap (fun fields => (writeRecord fields).toList) = pre ++ ['\n'] := by
  induction records with
  | nil => exact Or.inl rfl
  | cons fields rest ih =>
    have lineEnd : "\r\n".toList = ['\r', '\n'] := by decide
    refine Or.inr ?_
    rcases ih with none | ⟨pre, ends⟩
    · refine ⟨(writeRecord fields).toList.dropLast, ?_⟩
      rw [List.flatMap_cons, none, List.append_nil]
      unfold writeRecord
      rw [String.toList_append, lineEnd]
      simp
    · exact ⟨(writeRecord fields).toList ++ pre, by rw [List.flatMap_cons, ends, List.append_assoc]⟩

/-- Records written one after another read back as the same records, without a failure, when
every field fits the limit. -/
theorem readRecords_writeRecords (records : List (List String))
    (fits : ∀ fields ∈ records, ∀ field ∈ fields, field.length ≤ fieldLimit) :
    readRecords (String.join (records.map writeRecord)) = (records, none) := by
  have scanned : ∀ records : List (List String),
      (∀ fields ∈ records, ∀ field ∈ fields, field.length ≤ fieldLimit) →
      scanLines {} (records.flatMap fun fields => (writeRecord fields).toList) = (records, none) := by
    intro records
    induction records with
    | nil => intro _; rfl
    | cons fields rest ih =>
      intro fits
      rw [List.flatMap_cons, scanLines_writeRecord fields _ (fits fields List.mem_cons_self),
        ih fun other member => fits other (List.mem_cons_of_mem fields member)]
  unfold readRecords linesOf
  rw [String.toList_join, List.flatMap_map]
  rw [recordsFrom_linesFrom _ [] {} List.not_mem_nil
    ((writeRecords_ends records).imp (fun none => ⟨none, rfl⟩) id)]
  exact scanned records fits

end Records

section Fits

/-- A reader within the field limit: the field being read is counted right and within the limit,
and so is every field saved. -/
structure Reader.Fits (reader : Reader) : Prop where
  counted : reader.size = reader.field.length
  bounded : reader.size ≤ fieldLimit
  saved : ∀ field ∈ reader.fields, field.length ≤ fieldLimit

namespace Reader.Fits

variable {reader next : Reader}

theorem initial : Reader.Fits {} :=
  ⟨rfl, Nat.zero_le _, fun _ member => absurd member List.not_mem_nil⟩

theorem withState (fits : reader.Fits) (state : ReadState) : Reader.Fits { reader with state } :=
  ⟨fits.counted, fits.bounded, fits.saved⟩

theorem save (fits : reader.Fits) : reader.save.Fits := by
  refine ⟨rfl, Nat.zero_le _, ?_⟩
  intro field member
  rcases List.mem_cons.mp member with rfl | earlier
  · rw [String.length_ofList, List.length_reverse, ← fits.counted]
    exact fits.bounded
  · exact fits.saved field earlier

/-- A character is added only below the limit, so the field stays within it. -/
theorem push (fits : reader.Fits) {c : Char} {state : ReadState}
    (pushed : reader.push c state = .ok next) : next.Fits := by
  unfold Reader.push at pushed
  split at pushed
  · next room =>
    cases pushed
    exact ⟨by simp [fits.counted], room, fits.saved⟩
  · cases pushed

theorem step (fits : reader.Fits) {c : Char} (read : reader.step c = .ok next) : next.Fits := by
  unfold Reader.step Reader.fieldChar at read
  repeat' split at read
  all_goals first
    | (cases read; first | exact fits.withState _ | exact fits.save.withState _ | exact fits)
    | exact fits.push read
    | cases read

theorem endLine (fits : reader.Fits) : reader.endLine.Fits := by
  unfold Reader.endLine
  split
  · exact fits
  · exact fits.save.withState _
  · exact fits.save.withState _
  · exact fits.save.withState _
  · exact fits
  · exact fits.withState _

/-- Reading a line keeps the reader within the limit. -/
theorem foldlM : ∀ {chars : List Char} {reader next : Reader}, reader.Fits →
    chars.foldlM Reader.step reader = .ok next → next.Fits
  | [], _, _, fits, read => by
    cases read
    exact fits
  | c :: chars, reader, next, fits, read => by
    rw [List.foldlM_cons] at read
    cases stepped : reader.step c with
    | error message => rw [stepped] at read; cases read
    | ok middle =>
      rw [stepped, ok_bind] at read
      exact foldlM (fits.step stepped) read

end Reader.Fits

/-- Every field of every record read lies within the limit. -/
theorem recordsFrom_fits :
    ∀ (lines : List (List Char)) (reader : Reader), reader.Fits →
      ∀ fields ∈ (recordsFrom reader lines).1, ∀ field ∈ fields, field.length ≤ fieldLimit
  | [], reader, fits => by
    unfold recordsFrom
    split
    · intro fields member field inside
      simp only [List.mem_singleton] at member
      subst member
      exact fits.save.saved field (List.mem_reverse.mp inside)
    · intro fields member
      cases member
  | line :: rest, reader, fits => by
    unfold recordsFrom
    cases read : line.foldlM Reader.step reader with
    | error message =>
      intro fields member
      cases member
    | ok after =>
      have ended := (fits.foldlM read).endLine
      dsimp only
      split
      · intro fields member field inside
        rcases List.mem_cons.mp member with rfl | later
        · exact ended.saved field (List.mem_reverse.mp inside)
        · exact recordsFrom_fits rest {} Reader.Fits.initial fields later field inside
      · exact recordsFrom_fits rest _ ended

/-- The reader gives no field longer than the limit. -/
theorem readRecords_fits (text : String) :
    ∀ fields ∈ (readRecords text).1, ∀ field ∈ fields, field.length ≤ fieldLimit :=
  recordsFrom_fits (linesOf text) {} Reader.Fits.initial

end Fits

end Listening.Table
