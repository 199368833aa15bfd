import Listening.Proofs.HandleSearch
import Listening.Proofs.TableRoundTrip
import Mathlib.Data.List.Nodup

/-!
# The table of handles a roster run writes

A run over a roster reads a table, searches for the person of every record and writes the
records with a handle found, each with two more fields. A record is read against the columns as
a row, an association list, and written back from it. When the columns are distinct, a record as
long as the columns comes back unchanged (`Row.toRecord_withHandles`); when a column is named
twice, the row keeps the last field under that name for both places
(`repeated_column_loses_field`).

`rosterRun_makes` follows a whole run: the calls of each record and the world it leaves.
`roster_writes_found_records` gives the written table: the columns with the added ones, then
every record whose name finds a handle, its fields unchanged, with its handles and their
profiles. The table reads back as these records when the added fields fit the reader's limit
(`readRecords_rosterText`); the roster's own fields always do, since the roster was read.
-/

namespace Listening.Social

open Listening.World Listening.World.Scripted Listening.Table Listening.Web

section Rows

/-- The field of a record under the names column. -/
def nameOf (header record : List String) : String :=
  record.getD (header.idxOf nameColumn) ""

/-- Looking a column up among the fields paired with the columns gives the field at the
column's first place. -/
theorem lookup_zip {columns record : List String} (full : record.length = columns.length)
    {key : String} (member : key ∈ columns) :
    Media.lookup (columns.zip record) key = some (record.getD (columns.idxOf key) "") := by
  induction columns generalizing record with
  | nil => simp at member
  | cons column rest ih =>
    cases record with
    | nil => simp at full
    | cons field more =>
      by_cases here : column = key
      · subst here
        simp
      · have later : key ∈ rest := by simpa [Ne.symm here] using member
        rw [List.zip_cons_cons, Media.lookup_cons_of_ne here, ih (by simpa using full) later]
        simp [here]

section Fold

variable
  {step : List (String × Option String) → String × String → List (String × Option String)}

/-- Setting keys one after the other leaves a key set by none of them as it was. -/
theorem lookup_foldl_setKey_of_not_mem
    (sets : ∀ values entry, step values entry = Media.setKey values entry.1 (some entry.2))
    {key : String} :
    ∀ (pairs : List (String × String)) (init : List (String × Option String)),
      key ∉ pairs.map Prod.fst →
        Media.lookup (pairs.foldl step init) key = Media.lookup init key
  | [], _, _ => rfl
  | entry :: rest, init, absent => by
    have apart : entry.1 ≠ key := fun same => absent (by simp [same])
    rw [List.foldl_cons, lookup_foldl_setKey_of_not_mem sets rest _ (by simp_all), sets,
      Media.lookup_setKey_of_ne _ _ apart]

/-- Setting distinct keys one after the other leaves each with its value. -/
theorem lookup_foldl_setKey
    (sets : ∀ values entry, step values entry = Media.setKey values entry.1 (some entry.2))
    {key value : String} :
    ∀ (pairs : List (String × String)) (init : List (String × Option String)),
      (pairs.map Prod.fst).Nodup → Media.lookup pairs key = some value →
      Media.lookup (pairs.foldl step init) key = some (some value)
  | [], _, _, found => by simp [Media.lookup] at found
  | entry :: rest, init, distinct, found => by
    rw [List.map_cons, List.nodup_cons] at distinct
    rw [List.foldl_cons]
    by_cases here : entry.1 = key
    · obtain ⟨name, given⟩ := entry
      simp only at here
      subst here
      rw [Media.lookup_cons_self] at found
      cases found
      rw [lookup_foldl_setKey_of_not_mem sets rest _ distinct.1, sets, Media.lookup_setKey_self]
    · rw [Media.lookup_cons_of_ne here] at found
      exact lookup_foldl_setKey sets rest _ distinct.2 found

end Fold

/-- A record read against distinct columns holds each column's field. -/
theorem Row.lookup_ofRecord {header record : List String} (distinct : header.Nodup)
    (full : record.length = header.length) {key : String} (member : key ∈ header) :
    Media.lookup (Row.ofRecord header record).values key =
      some (some (record.getD (header.idxOf key) "")) := by
  unfold Row.ofRecord
  simp only [full, List.drop_length, List.foldl_nil]
  have keys : (header.zip record).map Prod.fst = header := List.map_fst_zip (by omega)
  exact lookup_foldl_setKey (fun _ _ => rfl) _ _ (by rw [keys]; exact distinct)
    (lookup_zip full member)

/-- Each of distinct columns finds its own field at its first place. -/
theorem map_getD_idxOf {header record : List String} (distinct : header.Nodup)
    (full : record.length = header.length) :
    header.map (fun key => record.getD (header.idxOf key) "") = record := by
  apply List.ext_getElem (by simp [full])
  intro i inMap inRecord
  have place : header.idxOf header[i] = i := by
    simpa using List.get_idxOf distinct ⟨i, by simpa using inMap⟩
  simp [place, inRecord]

/-- A record of distinct columns read against them, with handles set, is written back as the
record followed by the handles and their profiles, each joined by "; ". -/
theorem Row.toRecord_withHandles {header record : List String} (distinct : header.Nodup)
    (full : record.length = header.length) (fresh : ∀ column ∈ addedColumns, column ∉ header)
    (found : List (String × String)) :
    ((Row.ofRecord header record).withHandles found).toRecord (header ++ addedColumns) =
      .ok (record ++
        ["; ".intercalate (found.map (·.1)), "; ".intercalate (found.map (·.2))]) := by
  have noExtra : (Row.ofRecord header record).extra = none := by simp [Row.ofRecord, full]
  unfold Row.toRecord Row.withHandles
  rw [if_neg (by simp [noExtra]), List.map_append]
  congr 2
  · conv => rhs; rw [← map_getD_idxOf distinct full]
    apply List.map_congr_left
    intro key member
    -- setting the added columns leaves the record's own columns as they were
    have apart : ∀ column ∈ addedColumns, column ≠ key :=
      fun column added same => fresh column added (same ▸ member)
    rw [Media.lookup_setKey_of_ne _ _ (apart _ (by simp [addedColumns])),
      Media.lookup_setKey_of_ne _ _ (apart _ (by simp [addedColumns])),
      Row.lookup_ofRecord distinct full member]
    rfl
  · simp [addedColumns, Media.lookup_setKey_self, Media.lookup_setKey_of_ne]

end Rows

section Run

/-- A record with a handle found, read against the columns with the handles set. -/
def foundRow (pages : List (String × Page)) (header record : List String) : Option Row :=
  let handles := handlesOf pages (nameOf header record)
  if handles.isEmpty then none
  else some ((Row.ofRecord header record).withHandles (handles.map withProfile))

/-- The row of a record of distinct columns that holds the names column is found after the
searches for the record's name, and kept when a handle is found. -/
theorem rowWithHandles_makes {header record : List String} (distinct : header.Nodup)
    (full : record.length = header.length) (named : nameColumn ∈ header) (desk : Desk) :
    Makes (rowWithHandles header record) desk (.ok (foundRow desk.pages header record))
      (searchCalls (nameOf header record)) desk := by
  unfold rowWithHandles
  dsimp only
  rw [Row.lookup_ofRecord distinct full named]
  have kept : foundRow desk.pages header record =
      if ((handlesOf desk.pages (nameOf header record)).map withProfile).isEmpty then none
      else some ((Row.ofRecord header record).withHandles
        ((handlesOf desk.pages (nameOf header record)).map withProfile)) := by
    simp [foundRow]
  rw [kept]
  apply Makes.calls_eq
  case makes =>
    exact Makes.bind (Makes.pure _ desk)
      (Makes.bind (handlesFor_makes _ desk) (Makes.pure _ desk))
  case same => simp [nameOf]

/-- One pass of the writer: a row's record is added to the text, until a row cannot be written. -/
def writeStep (columns : List String) (state : String × Option String) (row : Row) :
    String × Option String :=
  if state.2.isNone then
    match row.toRecord columns with
    | .ok record => (state.1 ++ writeRecord record, state.2)
    | .error message => (state.1, some message)
  else state

/-- The writer opens the file, writes the columns and then the rows' records up to the first row
that cannot be written, and fails there. -/
theorem writeRows_makes (columns : List String) (rows : List Row) (desk : Desk) :
    Makes (writeRows columns rows) desk
      (match (rows.foldl (writeStep columns) (writeRecord columns, none)).2 with
        | some message => .error (.raised .wrongValue message)
        | none => .ok ())
      [⟨"open", [.str handlesPath, .str "w"]⟩]
      { desk with
        written := Media.setKey desk.written handlesPath
          (rows.foldl (writeStep columns) (writeRecord columns, none)).1 } := by
  unfold writeRows
  apply Makes.calls_eq
  case makes =>
    apply Makes.bind (Makes.call _ _ desk)
    apply Makes.bind (Makes.forIn_fold (fun _ => []) (writeStep columns) rows ?pass _)
    case pass =>
      intro row _ ⟨text, failure⟩
      cases failure with
      | some message => exact Makes.pure _ desk
      | none =>
        unfold writeStep
        cases row.toRecord columns with
        | ok record => exact Makes.pure _ desk
        | error message => exact Makes.pure _ desk
    apply Makes.bind (Makes.alter _ desk)
    generalize rows.foldl (writeStep columns) (writeRecord columns, none) = final
    obtain ⟨text, failure⟩ := final
    cases failure with
    | some message => exact Makes.raise _ _ _
    | none => exact Makes.pure _ _
  case same => simp

/-- Rows that can all be written add their records to the text in turn. -/
theorem foldl_writeStep {columns : List String} :
    ∀ {rows : List Row} {records : List (List String)},
      List.Forall₂ (fun row record => row.toRecord columns = .ok record) rows records →
      ∀ text, rows.foldl (writeStep columns) (text, none) =
        (text ++ String.join (records.map writeRecord), none)
  | [], [], .nil, text => by simp
  | row :: rows, record :: records, .cons written rest, text => by
    have step : writeStep columns (text, none) row = (text ++ writeRecord record, none) := by
      simp [writeStep, written]
    rw [List.foldl_cons, step, foldl_writeStep rest]
    simp [String.append_assoc]

/-- The records written for a roster: those whose name finds a handle, each followed by its
handles and their profiles, joined by "; ". -/
def foundRecords (pages : List (String × Page)) (header : List String)
    (body : List (List String)) : List (List String) :=
  body.filterMap fun record =>
    let handles := handlesOf pages (nameOf header record)
    if handles.isEmpty then none
    else some (record ++ ["; ".intercalate handles, "; ".intercalate (handles.map profileAddress)])

/-- The rows kept for a roster of distinct columns are written as the found records. -/
theorem foundRows_written (pages : List (String × Page)) {header : List String}
    (distinct : header.Nodup) (fresh : ∀ column ∈ addedColumns, column ∉ header) :
    ∀ {body : List (List String)}, (∀ record ∈ body, record.length = header.length) →
      List.Forall₂ (fun row record => row.toRecord (header ++ addedColumns) = .ok record)
        (body.filterMap (foundRow pages header)) (foundRecords pages header body)
  | [], _ => by simp [foundRecords]
  | record :: body, full => by
    have rest := @foundRows_written pages header distinct fresh body
      (fun other member => full other (List.mem_cons_of_mem record member))
    rw [foundRecords, List.filterMap_cons, List.filterMap_cons, ← foundRecords]
    by_cases none : (handlesOf pages (nameOf header record)).isEmpty
    · simpa [foundRow, none] using rest
    · simp only [foundRow, none]
      refine .cons ?_ rest
      rw [Row.toRecord_withHandles distinct (full record (by simp)) fresh]
      simp [List.map_map, withProfile, Function.comp_def]

/-- The roster, when there is one, is read after a request to open it. -/
theorem openRoster_makes {desk : Desk} {text : String} (given : desk.input = some text) :
    Makes openRoster desk (.ok text) [⟨"open", [.str rosterPath, .str "r"]⟩] desk := by
  unfold openRoster
  apply Makes.calls_eq
  case makes =>
    apply Makes.bind (Makes.call _ _ desk)
    apply Makes.bind (Makes.world desk)
    rw [given]
    exact Makes.pure text desk
  case same => rfl

/-- The calls of the pass over one record: its searches, then a second's sleep. -/
def recordCalls (header record : List String) : List Call :=
  searchCalls (nameOf header record) ++ [⟨"sleep", [.int 1]⟩]

/-- The pass over one record keeps its row when a handle is found, and counts the record. -/
def passStep (pages : List (String × Page)) (header : List String) (state : List Row × Nat)
    (record : List String) : List Row × Nat :=
  (state.1 ++ (foundRow pages header record).toList, state.2 + 1)

/-- The passes over the records keep, in order, the rows of those with a handle found. -/
theorem foldl_passStep (pages : List (String × Page)) (header : List String) :
    ∀ (body : List (List String)) (kept : List Row) (position : Nat),
      (body.foldl (passStep pages header) (kept, position)).1 =
        kept ++ body.filterMap (foundRow pages header)
  | [], kept, _ => by simp
  | record :: body, kept, position => by
    rw [List.foldl_cons, passStep, foldl_passStep pages header body, List.filterMap_cons]
    cases foundRow pages header record <;> simp

/-- The text written for a roster: the columns with the added ones, then the found records. -/
def rosterText (pages : List (String × Page)) (header : List String)
    (body : List (List String)) : String :=
  writeRecord (header ++ addedColumns) ++
    String.join ((foundRecords pages header body).map writeRecord)

/-- A run over a roster whose columns are distinct, hold the names column and none of the added
ones, with every record that is not empty as long as the columns: it reads the roster, makes the
searches of each record that is not empty and sleeps after it, and writes the found records when
there are any. -/
theorem rosterRun_makes {desk : Desk} {text : String} {header : List String}
    {body : List (List String)} (given : desk.input = some text)
    (read : readRecords text = (header :: body, none)) (distinct : header.Nodup)
    (named : nameColumn ∈ header) (fresh : ∀ column ∈ addedColumns, column ∉ header)
    (full : ∀ record ∈ body, record ≠ [] → record.length = header.length) :
    let rows := body.filter (· != [])
    Makes rosterRun desk (.ok ())
      (⟨"open", [.str rosterPath, .str "r"]⟩ :: rows.flatMap (recordCalls header) ++
        if foundRecords desk.pages header rows = [] then []
        else [⟨"open", [.str handlesPath, .str "w"]⟩])
      (if foundRecords desk.pages header rows = [] then desk
        else { desk with
          written :=
            Media.setKey desk.written handlesPath (rosterText desk.pages header rows) }) := by
  intro rows
  replace full : ∀ record ∈ rows, record.length = header.length := by
    intro record member
    rw [List.mem_filter] at member
    exact full record member.1 (by simpa using member.2)
  have written := foundRows_written desk.pages distinct fresh full
  unfold rosterRun
  apply Makes.calls_eq
  case makes =>
    apply Makes.bind (openRoster_makes given)
    dsimp only
    rw [read]
    dsimp only
    apply Makes.bind (Makes.pure _ desk)
    apply Makes.bind
      (Makes.forIn_fold (recordCalls header) (passStep desk.pages header) rows ?pass _)
    case pass =>
      intro record member ⟨kept, position⟩
      apply Makes.calls_eq
      case makes =>
        apply Makes.bind (rowWithHandles_makes distinct (full record member) named desk)
        unfold passStep
        cases foundRow desk.pages header record with
        | none =>
          rw [Option.toList_none, List.append_nil]
          exact Makes.bind (Makes.call _ _ desk) (Makes.bind (Makes.say _ desk) (Makes.pure _ desk))
        | some row =>
          exact Makes.bind (Makes.call _ _ desk) (Makes.bind (Makes.say _ desk) (Makes.pure _ desk))
      case same => simp [recordCalls]
    apply Makes.bind (Makes.pure () desk)
    rw [foldl_passStep, List.nil_append]
    show Makes _ desk (.ok ()) (if foundRecords desk.pages header rows = [] then []
      else [⟨"open", [.str handlesPath, .str "w"]⟩]) _
    -- the rows kept and the records written are as many, so both are empty or neither
    have sameEmpty : (rows.filterMap (foundRow desk.pages header)).isEmpty =
        (foundRecords desk.pages header rows).isEmpty := by
      rw [Bool.eq_iff_iff, List.isEmpty_iff, List.isEmpty_iff, ← List.length_eq_zero_iff,
        written.length_eq, List.length_eq_zero_iff]
    by_cases nothing : foundRecords desk.pages header rows = []
    · rw [if_pos (by rw [sameEmpty, nothing]; rfl), if_pos nothing, if_pos nothing]
      exact Makes.say _ desk
    · have writing := writeRows_makes (header ++ addedColumns)
        (rows.filterMap (foundRow desk.pages header)) desk
      rw [foldl_writeStep written] at writing
      dsimp only at writing
      rw [if_neg (by simpa [sameEmpty] using nothing), if_neg nothing, if_neg nothing]
      exact Makes.bind writing (Makes.say _ _)
  case same => simp

end Run

/-- The fields added to a record with handles found fit the reader's limit: the handles and
their profile addresses, each joined by "; ". -/
def AddedFieldsFit (handles : List String) : Prop :=
  ("; ".intercalate handles).length ≤ fieldLimit ∧
    ("; ".intercalate (handles.map profileAddress)).length ≤ fieldLimit

/-- A found record is a record of the roster followed by its handles and their profiles. -/
theorem mem_foundRecords {pages : List (String × Page)} {header : List String}
    {body : List (List String)} {fields : List String}
    (member : fields ∈ foundRecords pages header body) :
    ∃ record ∈ body, fields = record ++ ["; ".intercalate (handlesOf pages (nameOf header record)),
      "; ".intercalate ((handlesOf pages (nameOf header record)).map profileAddress)] := by
  obtain ⟨record, inBody, kept⟩ := List.mem_filterMap.mp member
  refine ⟨record, inBody, ?_⟩
  dsimp only at kept
  split at kept
  · cases kept
  · exact (Option.some.inj kept).symm

/-- The table written for a roster read without failure reads back whole when the fields added
to each found record fit the limit: the roster's own fields fit it, since it was read. -/
theorem readRecords_rosterText {pages : List (String × Page)} {text : String}
    {header : List String} {body : List (List String)}
    (read : readRecords text = (header :: body, none)) {rows : List (List String)}
    (within : ∀ record ∈ rows, record ∈ body)
    (added : ∀ record ∈ rows, AddedFieldsFit (handlesOf pages (nameOf header record))) :
    readRecords (rosterText pages header rows) =
      ((header ++ addedColumns) :: foundRecords pages header rows, none) := by
  have readFits := readRecords_fits text
  rw [read] at readFits
  unfold rosterText
  rw [← String.join_cons, ← List.map_cons]
  apply readRecords_writeRecords
  intro fields member field inside
  rcases List.mem_cons.mp member with rfl | found
  · rcases List.mem_append.mp inside with own | column
    · exact readFits header List.mem_cons_self field own
    · simp only [addedColumns, List.mem_cons, List.not_mem_nil, or_false] at column
      rcases column with rfl | rfl <;> decide
  · obtain ⟨record, inRows, rfl⟩ := mem_foundRecords found
    rcases List.mem_append.mp inside with own | extra
    · exact readFits record (List.mem_cons_of_mem _ (within record inRows)) field own
    · obtain ⟨handlesFit, profilesFit⟩ := added record inRows
      simp only [List.mem_cons, List.not_mem_nil, or_false] at extra
      rcases extra with rfl | rfl
      · exact handlesFit
      · exact profilesFit

/-- A run over a roster whose columns are distinct, hold the names column and none of the added
ones, and whose records that are not empty are as long as the columns, ends without failure. When
no record's name finds a handle it leaves the files as they were; otherwise it writes one file:
the columns with the two added ones and then, in order, each record whose name finds a handle,
its fields unchanged, followed by the handles found (each once, by the full name first, then by
the name without its middle parts when it has more than two) and their profile addresses, each
joined by "; ". The file reads back as these records whenever the two added fields of each fit
the reader's limit. -/
theorem roster_writes_found_records {desk : Desk} {text : String} {header : List String}
    {body : List (List String)} (given : desk.input = some text)
    (read : readRecords text = (header :: body, none)) (distinct : header.Nodup)
    (named : nameColumn ∈ header) (fresh : ∀ column ∈ addedColumns, column ∉ header)
    (full : ∀ record ∈ body, record ≠ [] → record.length = header.length) :
    let rows := body.filter (· != [])
    (Scripted.execute rosterRun desk).1 = .ok () ∧
      ((∀ record ∈ rows, handlesOf desk.pages (nameOf header record) = []) →
        (Scripted.execute rosterRun desk).2.world = desk) ∧
      ((∃ record ∈ rows, handlesOf desk.pages (nameOf header record) ≠ []) →
        (Scripted.execute rosterRun desk).2.world =
            { desk with written :=
                Media.setKey desk.written handlesPath (rosterText desk.pages header rows) } ∧
          rosterText desk.pages header rows =
            String.join (((header ++ addedColumns) :: foundRecords desk.pages header rows).map
              writeRecord) ∧
          ((∀ record ∈ rows, AddedFieldsFit (handlesOf desk.pages (nameOf header record))) →
            readRecords (rosterText desk.pages header rows) =
              ((header ++ addedColumns) :: foundRecords desk.pages header rows, none))) := by
  intro rows
  obtain ⟨printed, ran⟩ := (rosterRun_makes given read distinct named fresh full).execute
  rw [ran]
  have nothing : foundRecords desk.pages header rows = [] ↔
      ∀ record ∈ rows, handlesOf desk.pages (nameOf header record) = [] := by
    simp [foundRecords, List.filterMap_eq_nil_iff]
  refine ⟨rfl, fun missed => if_pos (nothing.mpr missed), ?_⟩
  rintro ⟨record, member, found⟩
  have written : foundRecords desk.pages header rows ≠ [] :=
    fun empty => found (nothing.mp empty record member)
  refine ⟨if_neg written, by rw [rosterText, List.map_cons, String.join_cons], ?_⟩
  exact readRecords_rosterText read fun record inRows => List.mem_of_mem_filter inRows

/-- A roster of a names column and one more, with one record whose name finds the handle `jd`:
the run writes the record with the handle and its profile, and the written table reads back. -/
theorem roster_run_writes_found_handle :
    (Scripted.execute rosterRun
        { input := some "Names from the University Bulletin,Year\nJane Doe,2025\n",
          pages := [(searchPage (quote "Jane Doe"),
            .body "<a href=\"https://twitter.com/jd\">t</a>")] }).1 = .ok () ∧
      (Scripted.execute rosterRun
        { input := some "Names from the University Bulletin,Year\nJane Doe,2025\n",
          pages := [(searchPage (quote "Jane Doe"),
            .body "<a href=\"https://twitter.com/jd\">t</a>")] }).2.world.written =
        [(handlesPath, "Names from the University Bulletin,Year,Twitter Handle,Twitter Profile URL\r\n" ++
          "Jane Doe,2025,jd,https://twitter.com/jd\r\n")] ∧
      readRecords ("Names from the University Bulletin,Year,Twitter Handle,Twitter Profile URL\r\n" ++
          "Jane Doe,2025,jd,https://twitter.com/jd\r\n") =
        ([["Names from the University Bulletin", "Year", "Twitter Handle", "Twitter Profile URL"],
          ["Jane Doe", "2025", "jd", "https://twitter.com/jd"]], none) := by
  have handles : handlesOf [(searchPage (quote "Jane Doe"),
      .body "<a href=\"https://twitter.com/jd\">t</a>")] "Jane Doe" = ["jd"] := by
    decide +kernel
  have named : nameOf ["Names from the University Bulletin", "Year"] ["Jane Doe", "2025"] =
      "Jane Doe" := by decide
  have kept : [["Jane Doe", "2025"]].filter (· != []) = [["Jane Doe", "2025"]] := by decide
  obtain ⟨ran, -, wrote⟩ := @roster_writes_found_records
    { input := some "Names from the University Bulletin,Year\nJane Doe,2025\n",
      pages := [(searchPage (quote "Jane Doe"), .body "<a href=\"https://twitter.com/jd\">t</a>")] }
    "Names from the University Bulletin,Year\nJane Doe,2025\n"
    ["Names from the University Bulletin", "Year"] [["Jane Doe", "2025"]]
    rfl (by decide +kernel) (by decide) (by decide) (by decide) (by decide)
  simp only [kept] at ran wrote
  obtain ⟨world, -, readBack⟩ := wrote
    ⟨["Jane Doe", "2025"], List.mem_singleton_self _, by rw [named, handles]; simp⟩
  have found : foundRecords [(searchPage (quote "Jane Doe"),
        .body "<a href=\"https://twitter.com/jd\">t</a>")]
      ["Names from the University Bulletin", "Year"] [["Jane Doe", "2025"]] =
      [["Jane Doe", "2025", "jd", "https://twitter.com/jd"]] := by
    simp only [foundRecords, List.filterMap_cons, List.filterMap_nil, named, handles]
    decide
  have text : rosterText [(searchPage (quote "Jane Doe"),
        .body "<a href=\"https://twitter.com/jd\">t</a>")]
      ["Names from the University Bulletin", "Year"] [["Jane Doe", "2025"]] =
      "Names from the University Bulletin,Year,Twitter Handle,Twitter Profile URL\r\n" ++
        "Jane Doe,2025,jd,https://twitter.com/jd\r\n" := by
    rw [rosterText, found]
    decide
  have fits : ∀ record ∈ [["Jane Doe", "2025"]], AddedFieldsFit (handlesOf
      [(searchPage (quote "Jane Doe"), .body "<a href=\"https://twitter.com/jd\">t</a>")]
      (nameOf ["Names from the University Bulletin", "Year"] record)) := by
    intro record member
    rw [List.mem_singleton.mp member, named, handles]
    exact ⟨by decide, by decide⟩
  refine ⟨ran, by rw [world, text]; rfl, ?_⟩
  rw [← text, readBack fits, found]
  rfl

/-- A roster that names a column twice: the record's first field under that name is written as
its second. -/
theorem repeated_column_loses_field :
    Media.lookup (Scripted.execute rosterRun
      { input := some "Names from the University Bulletin,X,X\nJane Doe,1,2\n",
        pages := [(searchPage (quote "Jane Doe"),
          .body "<a href=\"https://twitter.com/jd\">t</a>")] }).2.world.written handlesPath =
      some ("Names from the University Bulletin,X,X,Twitter Handle,Twitter Profile URL\r\n" ++
        "Jane Doe,2,2,jd,https://twitter.com/jd\r\n") := by
  decide +kernel

end Listening.Social
