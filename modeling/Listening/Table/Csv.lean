/-!
# Comma-separated tables

A table is read line by line (each line ends with its line feed). Fields are separated by
commas; a field that starts with `"` is quoted: it runs to the next lone `"` (a doubled `""`
stands for one quote) and may span lines, and characters after its closing quote are added to
it. A line feed or carriage return ends a record outside quotes, and an empty line is an empty
record. A carriage return followed by more text on the same line is malformed, and so is a field
that grows past 131072 characters. At the end of the text an open quoted field ends the last
record.

A record is written with its fields separated by commas and ended by a carriage return and a
line feed. A field that holds a comma, a quote, a carriage return or a line feed is quoted, its
quotes doubled; a record of one empty field is written `""`.
-/

namespace Listening.Table

/-- Where a reader stands within a record. -/
inductive ReadState where
  | startRecord
  | startField
  | inField
  | inQuoted
  | quoteInQuoted
  | afterNewline
deriving DecidableEq

/-- A reader: where it stands, the field being read (last character first) with its length, and
the fields of the record so far (last first). -/
structure Reader where
  state : ReadState := .startRecord
  field : List Char := []
  fields : List String := []
  size : Nat := 0

/-- The most characters a field may hold. -/
def fieldLimit : Nat := 131072

/-- The message of a field that would grow past the limit. -/
def fieldTooLarge : String :=
  "field larger than field limit (" ++ toString fieldLimit ++ ")"

/-- The message of a carriage return inside an unquoted line. -/
def newlineInField : String :=
  "new-line character seen in unquoted field - do you need to open the file with newline=''?"

namespace Reader

/-- The field read so far ends. -/
def save (reader : Reader) : Reader :=
  { reader with field := [], size := 0,
                fields := String.ofList reader.field.reverse :: reader.fields }

/-- Adds a character to the field and moves to a state; a field at the limit takes no more. -/
def push (reader : Reader) (c : Char) (next : ReadState) : Except String Reader :=
  if reader.size < fieldLimit then
    .ok { reader with state := next, field := c :: reader.field, size := reader.size + 1 }
  else .error fieldTooLarge

/-- Whether a character ends a line. -/
def isNewline (c : Char) : Bool :=
  c == '\n' || c == '\r'

/-- Reads a character of a field. -/
def fieldChar (reader : Reader) (c : Char) : Except String Reader :=
  match reader.state with
  | .startRecord | .startField =>
    if isNewline c then .ok { reader.save with state := .afterNewline }
    else if c == '"' then .ok { reader with state := .inQuoted }
    else if c == ',' then .ok { reader.save with state := .startField }
    else reader.push c .inField
  | .inField =>
    if isNewline c then .ok { reader.save with state := .afterNewline }
    else if c == ',' then .ok { reader.save with state := .startField }
    else reader.push c .inField
  | .inQuoted =>
    if c == '"' then .ok { reader with state := .quoteInQuoted }
    else reader.push c .inQuoted
  | .quoteInQuoted =>
    if c == '"' then reader.push c .inQuoted
    else if c == ',' then .ok { reader.save with state := .startField }
    else if isNewline c then .ok { reader.save with state := .afterNewline }
    else reader.push c .inField
  | .afterNewline =>
    if isNewline c then .ok reader else .error newlineInField

/-- Reads a character; at the start of a record a line end alone makes an empty record. -/
def step (reader : Reader) (c : Char) : Except String Reader :=
  if reader.state == .startRecord && isNewline c then .ok { reader with state := .afterNewline }
  else reader.fieldChar c

/-- The end of a line. -/
def endLine (reader : Reader) : Reader :=
  match reader.state with
  | .startRecord => reader
  | .startField | .inField | .quoteInQuoted => { reader.save with state := .startRecord }
  | .inQuoted => reader
  | .afterNewline => { reader with state := .startRecord }

end Reader

/-- The lines of some characters, each with its line feed (the last one may have none), after
the start `current` of a line (last character first). -/
def linesFrom (current : List Char) : List Char → List (List Char)
  | [] => if current.isEmpty then [] else [current.reverse]
  | c :: rest =>
    if c = '\n' then ('\n' :: current).reverse :: linesFrom [] rest
    else linesFrom (c :: current) rest

/-- The lines of a text, each with its line feed (the last one may have none). -/
def linesOf (text : String) : List (List Char) :=
  linesFrom [] text.toList

/-- The records of some lines, from a reader; when a line is malformed, the records before it
and the message. -/
def recordsFrom (reader : Reader) : List (List Char) → List (List String) × Option String
  | [] =>
    if !reader.field.isEmpty || reader.state == .inQuoted then ([reader.save.fields.reverse], none)
    else ([], none)
  | line :: rest =>
    match line.foldlM Reader.step reader with
    | .error message => ([], some message)
    | .ok read =>
      let read := read.endLine
      if read.state == .startRecord then
        let (more, failure) := recordsFrom {} rest
        (read.fields.reverse :: more, failure)
      else recordsFrom read rest

/-- The records of a text, and the message of the malformed line that ended reading, if any. -/
def readRecords (text : String) : List (List String) × Option String :=
  recordsFrom {} (linesOf text)

/-- Whether a field must be quoted. -/
def needsQuotes (field : String) : Bool :=
  field.toList.any fun c => c == ',' || c == '"' || c == '\r' || c == '\n'

/-- A field as written. -/
def writeField (field : String) : String :=
  if needsQuotes field then
    "\"" ++ String.join (field.toList.map fun c => if c == '"' then "\"\"" else c.toString) ++ "\""
  else field

/-- A record as written, with its line end. -/
def writeRecord (fields : List String) : String :=
  (if fields == [""] then "\"\"" else ",".intercalate (fields.map writeField)) ++ "\r\n"

end Listening.Table
