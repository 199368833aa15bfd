import Listening.Social.Handle
import Listening.Social.Names
import Listening.Table.Csv

/-!
# Handles for a roster

A roster is a table whose first record names its columns. For every later record (empty ones
skipped) the person in the names column is looked up; when the name has a middle part, the
shortened name is looked up too, and a handle found that way is kept unless it was already
found. Each record waits a second and prints its position. Records with at least one handle
are written to a new table with two more columns, the handles and the profile addresses, each
joined by `; `.

A record with fewer fields than columns has nothing in the missing ones; one with more keeps
the rest apart, and cannot be written back.
-/

namespace Listening.Social

open Listening.World Listening.World.Scripted Listening.Table

/-- Where the roster is read from. -/
def rosterPath : String := "/Users/jordanb/Downloads/Columbia Directory - Columbia College.csv"

/-- Where the roster with handles is written. -/
def handlesPath : String := "output_names_with_twitter.csv"

/-- The column that holds the names. -/
def nameColumn : String := "Names from the University Bulletin"

/-- The columns added for the handles and the profiles. -/
def addedColumns : List String := ["Twitter Handle", "Twitter Profile URL"]

/-- A record read against the columns: a value for every column (nothing for a missing one),
and the fields beyond the columns, if there are any. -/
structure Row where
  values : List (String × Option String)
  extra : Option (List String) := none

/-- A record read against the columns; a repeated column keeps its first place and last value. -/
def Row.ofRecord (columns record : List String) : Row :=
  let paired := (columns.zip record).foldl (fun values (key, value) =>
    Media.setKey values key (some value)) []
  let missing := (columns.drop record.length).foldl (fun values key => Media.setKey values key none) paired
  { values := missing
    extra := if columns.length < record.length then some (record.drop columns.length) else none }

/-- Reads the roster file. -/
def openRoster : Errand String := do
  call "open" [.str rosterPath, .str "r"]
  match (← world).input with
  | some text => pure text
  | none => raise .missingFile ("[Errno 2] No such file or directory: " ++ Text.literal rosterPath)

/-- Adds to the handles found for a person by the full name the one found by the shortened name,
when the name has a middle part and that handle is new. -/
def addShortened (full : String) (found : List (String × String)) :
    Errand (List (String × String)) := do
  let short := shortenName full
  if short != full then
    match ← findHandle (.str short) with
    | some (handle, profile) =>
      if !(found.any (·.1 == handle)) then
        say (short ++ " - @" ++ handle)
        pure (found ++ [(handle, profile)])
      else pure found
    | none =>
      say ("No Twitter handle found for '" ++ short ++ "'.")
      pure found
  else pure found

/-- The handles of one person: by the full name, then by the shortened name. -/
def handlesFor (name : Datum) : Errand (List (String × String)) := do
  let found ← match ← findHandle name with
    | some (handle, profile) =>
      say (name.display ++ " - @" ++ handle)
      pure [(handle, profile)]
    | none =>
      say ("No Twitter handle found for '" ++ name.display ++ "'.")
      pure []
  let full ← match name with
    | .str full => pure full
    | other => raise .missingOperation ("'" ++ other.shapeName ++ "' object has no attribute 'split'")
  addShortened full found

/-- A row with the handle columns set. -/
def Row.withHandles (row : Row) (found : List (String × String)) : Row :=
  let values := Media.setKey row.values "Twitter Handle" (some ("; ".intercalate (found.map (·.1))))
  { row with values := Media.setKey values "Twitter Profile URL" (some ("; ".intercalate (found.map (·.2)))) }

/-- A row as a record of the given columns; a row with extra fields cannot be written. -/
def Row.toRecord (row : Row) (columns : List String) : Except String (List String) :=
  if row.extra.isSome then .error "dict contains fields not in fieldnames: None"
  else .ok (columns.map fun key => ((Media.lookup row.values key).bind id).getD "")

/-- Writes rows to a new file; a row that cannot be written stops the writing there. -/
def writeRows (columns : List String) (rows : List Row) : Errand Unit := do
  call "open" [.str handlesPath, .str "w"]
  let mut text := writeRecord columns
  let mut failure : Option String := none
  for row in rows do
    if failure.isNone then
      match row.toRecord columns with
      | .ok record => text := text ++ writeRecord record
      | .error message => failure := some message
  let written := text
  alter fun desk => { desk with written := Media.setKey desk.written handlesPath written }
  if let some message := failure then raise .wrongValue message

/-- A record read against the columns, with the handles found for its name, when there are any. -/
def rowWithHandles (header record : List String) : Errand (Option Row) := do
  let row := Row.ofRecord header record
  let name ← match Media.lookup row.values nameColumn with
    | some (some name) => pure (Datum.str name)
    | some none => pure Datum.none
    | none => raise .missingKey (Text.literal nameColumn)
  let found ← handlesFor name
  pure (if found.isEmpty then none else some (row.withHandles found))

/-- The whole run over the roster. -/
def rosterRun : Errand Unit := do
  let text ← openRoster
  let (records, malformed) := readRecords text
  let failRead : Errand Unit := match malformed with
    | some message => raise .malformedTable message
    | none => pure ()
  let (header, body) ← match records with
    | header :: body => pure (header, body)
    | [] => do
      failRead
      raise .wrongShape "unsupported operand type(s) for +: 'NoneType' and 'list'"
  let columns := header ++ addedColumns
  let mut kept : List Row := []
  let mut position := 0
  for record in body.filter (· != []) do
    if let some row ← rowWithHandles header record then kept := kept ++ [row]
    call "sleep" [.int 1]
    say (toString position)
    position := position + 1
  failRead
  if kept.isEmpty then say "No Twitter handles were found for any of the names."
  else
    writeRows columns kept
    say ("Twitter handles and profile URLs have been added to '" ++ handlesPath ++ "'.")

end Listening.Social
