import Listening.Text.Quoted
import Listening.World.Script

/-!
# A file system seen from a working directory

Downloads land in a working directory, a folder somewhere in a tree of folders and files. The
tree is written here as the list of its entries, each under its place (the names from the root
down); the root is a folder that is always there. Of the tree the run knows the folders on the
way to its working directory and whatever it finds or makes there.

Paths are read the way the system reads them: a path from the root starts at the root, any other
at the working directory, and `/` divides names. An empty name and `.` stay where they are, `..`
goes up to the folder above (the root is its own parent), and any other name goes into the folder
of that name. Each name is looked up in the folder reached so far, so a name on the way that is
missing or is a file stops the path there (`Disk.walk`): `x/..` leads back only when `x` is a
folder. Names that need no lookup before the first that does (`Disk.follow`) move from where the
path starts whatever stands there, so the working directory is a place to start from even once it
is removed.

Operations refuse as the system does: a missing place, a file where a folder is needed and a
folder where a file is needed each have their own failure, with the path as given in the
message. Removing a folder refuses a last name `.` or `..` and the root.

Paths are also taken apart as text: the folder part, the extension, and two paths joined.
-/

namespace Listening.Media

open Listening.World

/-- A place in the file system: its names from the root down. -/
abbrev Place := List String

/-- What stands at a place. -/
inductive Entry where
  | file
  | folder
deriving DecidableEq, Repr

/-- The names of a path between its `/`s, the empty ones included. -/
def pathNames (path : String) : List String :=
  go [] path.toList
where
  /-- Reads names, `name` holding the characters of the one being read, in reverse. -/
  go (name : List Char) : List Char → List String
    | [] => [String.ofList name.reverse]
    | '/' :: rest => String.ofList name.reverse :: go [] rest
    | c :: rest => go (c :: name) rest

/-- Where a name leads from a folder: an empty name and `.` stay, `..` goes to the folder above,
and any other name into the folder of that name. -/
def enter (here : Place) (name : String) : Place :=
  if name = "" ∨ name = "." then here
  else if name = ".." then here.dropLast
  else here ++ [name]

/-- Whether a name moves without being looked up: an empty name, `.` or `..`. -/
def isDots (name : String) : Bool :=
  name == "" || name == "." || name == ".."

/-- Why a path leads nowhere: a name on the way is missing, or is a file. -/
inductive Blocked where
  | missing
  | notFolder
deriving DecidableEq, Repr

/-- A file system and a working directory in it: every entry under its place. The folders above
an entry are entries too. -/
structure Disk where
  /-- The place of the working directory. -/
  home : Place := []
  entries : List (Place × Entry) := []

namespace Disk

/-- What stands at a place; the root is a folder. -/
def entryOf? (disk : Disk) : Place → Option Entry
  | [] => some .folder
  | place => (disk.entries.find? (·.1 == place)).map (·.2)

/-- The file system with one more entry. -/
def add (disk : Disk) (place : Place) (entry : Entry) : Disk :=
  { disk with entries := disk.entries ++ [(place, entry)] }

/-- Where names lead from a place: each name is looked up in the place reached so far, which must
be a folder. -/
def walk (disk : Disk) (here : Place) : List String → Except Blocked Place
  | [] => .ok here
  | name :: rest =>
    match disk.entryOf? here with
    | some .folder => disk.walk (enter here name) rest
    | some .file => .error .notFolder
    | none => .error .missing

/-- Where names lead from a place. Names that move without a lookup (empty ones, `.` and `..`)
before the first name that is looked up move from the place as it is, whatever stands there: the
working directory stays a place to move from even once it is removed. -/
def follow (disk : Disk) (start : Place) (names : List String) : Except Blocked Place :=
  disk.walk ((names.takeWhile isDots).foldl enter start) (names.dropWhile isDots)

/-- Where a path starts: the root for a path from the root, the working directory for any other. -/
def start (disk : Disk) (path : String) : Place :=
  if path.startsWith "/" then [] else disk.home

/-- The place a path leads to. -/
def resolve (disk : Disk) (path : String) : Except Blocked Place :=
  disk.follow (disk.start path) (pathNames path)

/-- What stands at a path, if anything. -/
def entryAt? (disk : Disk) (path : String) : Option Entry :=
  if path = "" then none
  else match disk.resolve path with
    | .ok place => disk.entryOf? place
    | .error _ => none

/-- Whether something stands at a path. -/
def holds (disk : Disk) (path : String) : Bool :=
  (disk.entryAt? path).isSome

/-- Whether a folder stands at a path. -/
def isFolder (disk : Disk) (path : String) : Bool :=
  disk.entryAt? path == some .folder

/-- The failure of a path that names nothing. -/
def missing (path : String) : Stop :=
  .raised .missingFile ("[Errno 2] No such file or directory: " ++ Text.literal path)

/-- The failure of a path that names a file where a folder is needed. -/
def notFolder (path : String) : Stop :=
  .raised .notADirectory ("[Errno 20] Not a directory: " ++ Text.literal path)

/-- The failure of a path that names a folder where a file is needed. -/
def notFile (path : String) : Stop :=
  .raised .isADirectory ("[Errno 21] Is a directory: " ++ Text.literal path)

/-- The failure of a path that names a file where a new folder should go. -/
def taken (path : String) : Stop :=
  .raised .systemRefused ("[Errno 17] File exists: " ++ Text.literal path)

/-- The failure of removing a folder through a last name `.`. -/
def invalid (path : String) : Stop :=
  .raised .systemRefused ("[Errno 22] Invalid argument: " ++ Text.literal path)

/-- The failure of removing a folder that is not empty, or one named through a last `..`. -/
def notEmpty (path : String) : Stop :=
  .raised .systemRefused ("[Errno 39] Directory not empty: " ++ Text.literal path)

/-- The failure of removing the root. -/
def busy (path : String) : Stop :=
  .raised .systemRefused ("[Errno 16] Device or resource busy: " ++ Text.literal path)

/-- The failure of a path that leads nowhere. -/
def blocked : Blocked → String → Stop
  | .missing, path => missing path
  | .notFolder, path => notFolder path

/-- Makes the folder a path leads to and every folder missing on the way; a folder already there
is kept. -/
def makeFolders (disk : Disk) (path : String) : Except Stop Disk :=
  go disk (((pathNames path).takeWhile isDots).foldl enter (disk.start path))
    ((pathNames path).dropWhile isDots)
where
  /-- Goes down the names from a folder, making each one that is missing. -/
  go (disk : Disk) (here : Place) : List String → Except Stop Disk
    | [] => .ok disk
    | name :: rest =>
      match disk.entryOf? here, disk.entryOf? (enter here name) with
      | some .folder, some .folder => go disk (enter here name) rest
      | some .folder, none => go (disk.add (enter here name) .folder) (enter here name) rest
      | some .folder, some .file => .error (taken path)
      | some .file, _ => .error (notFolder path)
      | none, _ => .error (missing path)

/-- Writes an empty file at a path whose folder exists, replacing a file there. -/
def writeFile (disk : Disk) (path : String) : Except Stop Disk :=
  match disk.resolve path with
  | .error reason => .error (blocked reason path)
  | .ok place =>
    match disk.entryOf? place with
    | some .folder => .error (notFile path)
    | some .file => .ok disk
    | none => .ok (disk.add place .file)

/-- Removes the file at a path. -/
def removeFile (disk : Disk) (path : String) : Except Stop Disk :=
  match disk.resolve path with
  | .error reason => .error (blocked reason path)
  | .ok place =>
    match disk.entryOf? place with
    | some .file => .ok { disk with entries := disk.entries.filter (·.1 != place) }
    | some .folder => .error (notFile path)
    | none => .error (missing path)

/-- Whether an entry lies strictly under a place. -/
def under (place : Place) (entry : Place × Entry) : Bool :=
  place.isPrefixOf entry.1 && entry.1 != place

/-- Removes everything under a place and keeps the place. -/
def clearUnder (disk : Disk) (place : Place) : Disk :=
  { disk with entries := disk.entries.filter fun entry => !under place entry }

/-- Removes the empty folder a path leads to, the way the system does. Slashes at the end do not
count; the names before the last must lead to a folder. The system refuses a last name `.`, a last
name `..` (that folder is never empty), the root, and a folder with anything in it. -/
def removeFolder (disk : Disk) (path : String) : Except Stop Disk :=
  let names := ((pathNames path).reverse.dropWhile (· == "")).reverse
  match disk.follow (disk.start path) names, names.getLast? with
  | .error reason, _ => .error (blocked reason path)
  | .ok _, none => .error (if path.startsWith "/" then busy path else missing path)
  | .ok _, some "." => .error (invalid path)
  | .ok _, some ".." => .error (notEmpty path)
  | .ok place, some _ =>
    match disk.entryOf? place with
    | some .folder =>
      if disk.entries.any (under place) then .error (notEmpty path)
      else .ok { disk with entries := disk.entries.filter (·.1 != place) }
    | some .file => .error (notFolder path)
    | none => .error (missing path)

/-- The names directly inside the folder at a path, in code point order. -/
def namesIn (disk : Disk) (path : String) : Except Stop (List String) :=
  if path = "" then .error (missing path)
  else match disk.resolve path with
    | .error reason => .error (blocked reason path)
    | .ok place =>
      match disk.entryOf? place with
      | some .folder =>
        let names := disk.entries.filterMap fun (entry : Place × Entry) =>
          if entry.1.length = place.length + 1 && place.isPrefixOf entry.1 then entry.1.getLast?
          else none
        .ok (names.mergeSort fun a b => decide (a ≤ b))
      | some .file => .error (notFolder path)
      | none => .error (missing path)

/-- An empty working directory at a place, with the folders on the way to it. -/
def emptyAt (home : Place) : Disk where
  home := home
  entries := (List.range home.length).map fun count => (home.take (count + 1), .folder)

/-- A working directory at a place holding the given paths: a path that ends in `/` is a folder,
any other a file, each with the folders above it. -/
def ofPaths (home : Place) (paths : List String) : Except Stop Disk :=
  let add (disk : Disk) (path : String) : Except Stop Disk :=
    if path.endsWith "/" then disk.makeFolders path
    else do
      let above := "/".intercalate ((pathNames path).dropLast)
      (← disk.makeFolders above).writeFile path
  paths.foldlM add (emptyAt home)

/-- Everything left in the working directory, in code point order: the path of each file, and
of each empty folder with a `/` after it, from the working directory down. -/
def listing (disk : Disk) : List String :=
  let shown := (disk.entries.filter (under disk.home)).filterMap fun (entry : Place × Entry) =>
    let path := "/".intercalate (entry.1.drop disk.home.length)
    match entry.2 with
    | .file => some path
    | .folder =>
      if disk.entries.any fun other => other.1.length > entry.1.length && entry.1.isPrefixOf other.1
      then none else some (path ++ "/")
  shown.mergeSort fun a b => decide (a ≤ b)

end Disk

/-- The folder part of a path: everything before its last `/`, without the slashes that end it
(unless it is all slashes). -/
def folderOf (path : String) : String :=
  let chars := path.toList
  match chars.reverse.dropWhile (· != '/') with
  | [] => ""
  | kept =>
    let head := kept.reverse
    if head.all (· == '/') then String.ofList head
    else String.ofList (head.reverse.dropWhile (· == '/')).reverse

/-- A path with its extension taken off: the extension starts at the last `.` of the last name,
unless that name is dots up to there. -/
def withoutExtension (path : String) : String :=
  let chars := path.toList
  let name := chars.reverse.takeWhile (· != '/') |>.reverse
  let folder := chars.take (chars.length - name.length)
  let stem := name.reverse.dropWhile (· != '.') |>.reverse
  -- `stem` ends at the last dot, if there is one
  match stem with
  | [] => path
  | _ =>
    let base := stem.dropLast
    if base.all (· == '.') then path else String.ofList (folder ++ base)

/-- Two paths joined by one `/`; a second path from the root stands alone. -/
def joinPath (first second : String) : String :=
  if second.startsWith "/" then second
  else if first.isEmpty || first.endsWith "/" then first ++ second
  else first ++ "/" ++ second

end Listening.Media
