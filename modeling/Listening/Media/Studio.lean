import Listening.Media.Disk
import Listening.Number

/-!
# The world of a transcription run

A transcription run downloads videos from three services, extracts their sound, has it
transcribed and cleans up after itself, all inside one working directory. The services, the
speech model and the random draws are scripted: a `Scene` says in advance what each service
holds and answers. A `Studio` is the scene together with what changes during a run: the
working directory, the draws not yet used, how often each post has refused for too many
requests, the transcripts gathered so far, and the folders removed with everything in them.

Here also the run's settings (`Transcriber`), its waits and its retries: before each link the
run waits the number of links times a draw from `[1, 3]`; a download refused for too many
requests is tried again after `backoff ^ round` seconds plus a draw from `[0, 1]`, as long as
the round is below the retry limit. A wait too large for a double overflows and stops the run.
-/

namespace Listening.Media

open Listening.World Listening.World.Scripted

/-- What the photo service holds for a post, by short code. -/
structure Post where
  /-- The post cannot be looked up: the server answers with this error. -/
  refusal : Option String := none
  /-- How many downloads are refused for too many requests before one goes through. -/
  rateLimits : Nat := 0
  /-- A download fails with this connection error. -/
  failure : Option String := none
  /-- Whether a download writes files. -/
  create : Bool := true
  /-- The files a download writes, when they are not the default ones. -/
  files : Option (List String) := none

/-- What the video service holds for a link. -/
structure Clip where
  /-- The download fails with this message. -/
  failure : Option String := none
  title : Option Datum := none
  extension : Option Datum := none
  /-- Whether a download writes the file. -/
  create : Bool := true

/-- What the services hold and answer, fixed for a run. -/
structure Scene where
  /-- The numbers random draws give, in order; once used up a draw gives its lower end. -/
  draws : List Number := []
  /-- The spoken segments of each sound file. -/
  speech : List (String × List String) := []
  posts : List (String × Post) := []
  clips : List (String × Clip) := []
  /-- Videos whose sound cannot be extracted. -/
  silent : List String := []
  /-- The caption lines of each video of the third service, by identifier. -/
  captions : List (String × List String) := []

/-- The transcripts of one link: text by video key, in the order found. -/
abbrev Transcripts := List (String × String)

/-- A scene with what a run changes. -/
structure Studio where
  scene : Scene := {}
  disk : Disk := {}
  draws : List Number := scene.draws
  /-- How many downloads of each post were refused so far. -/
  refused : List (String × Nat) := []
  /-- The transcripts gathered so far, by link. -/
  gathered : List (String × Transcripts) := []
  /-- The folders removed with everything in them so far, in order, each by the place its path
  led to before anything was removed. -/
  removed : List Place := []

/-- A script over a transcription run. -/
abbrev Session := Scripted Studio

/-- The settings of a run. -/
structure Transcriber where
  links : List String := []
  model : Datum := .str "base.en"
  retryLimit : Number := .whole 5
  backoff : Number := .whole 2

/-- The value under a key of an association list. -/
def lookup {α : Type} (table : List (String × α)) (key : String) : Option α :=
  (table.find? (·.1 == key)).map (·.2)

/-- An association list with a key set: in place if it is there, else at the end. -/
def setKey {α : Type} (table : List (String × α)) (key : String) (value : α) : List (String × α) :=
  if table.any (·.1 == key) then table.map fun entry => if entry.1 == key then (key, value) else entry
  else table ++ [(key, value)]

@[simp] theorem lookup_cons_self {β : Type} (key : String) (value : β) (rest : List (String × β)) :
    lookup ((key, value) :: rest) key = some value := by
  simp [lookup]

theorem lookup_cons_of_ne {β : Type} {entry : String × β} {key : String} (apart : entry.1 ≠ key)
    (rest : List (String × β)) : lookup (entry :: rest) key = lookup rest key := by
  simp [lookup, apart]

theorem lookup_setKey_self {β : Type} (table : List (String × β)) (key : String) (value : β) :
    lookup (setKey table key value) key = some value := by
  unfold setKey
  split
  · next present =>
    -- the first entry under the key is the one replaced
    induction table with
    | nil => simp at present
    | cons entry rest ih =>
      by_cases here : entry.1 = key
      · simp [lookup, here]
      · have later : rest.any (·.1 == key) = true := by simpa [here] using present
        simpa [lookup, here] using ih later
  · next absent =>
    have missing : table.find? (·.1 == key) = none := by
      rw [List.find?_eq_none]
      intro entry member same
      exact absent (List.any_eq_true.mpr ⟨entry, member, same⟩)
    simp [lookup, List.find?_append, missing]

theorem lookup_setKey_of_ne {β : Type} (table : List (String × β)) {key other : String}
    (value : β) (apart : key ≠ other) :
    lookup (setKey table key value) other = lookup table other := by
  unfold setKey
  split
  · -- replacing the entries under one key leaves those under another as they were
    clear ‹_›
    induction table with
    | nil => rfl
    | cons entry rest ih =>
      rw [List.map_cons]
      by_cases here : entry.1 = key
      · rw [if_pos (by simp [here]), lookup_cons_of_ne apart, ih, lookup_cons_of_ne (here ▸ apart)]
      · rw [if_neg (by simp [here])]
        by_cases found : entry.1 = other
        · obtain ⟨name, value⟩ := entry
          simp only at found
          subst found
          simp
        · rw [lookup_cons_of_ne found, lookup_cons_of_ne found, ih]
  · simp [lookup, List.find?_append, apart]

/-- Whether a list of characters holds a piece somewhere. -/
def holdsChars (piece : List Char) : List Char → Bool
  | [] => piece.isEmpty
  | c :: rest => piece.isPrefixOf (c :: rest) || holdsChars piece rest

/-- Whether a text holds another one. -/
def holdsText (text piece : String) : Bool :=
  holdsChars piece.toList text.toList

namespace Session

/-- The scene of the run. -/
def scene : Session Scene :=
  return (← world).scene

/-- The working directory. -/
def disk : Session Disk :=
  return (← world).disk

/-- Changes the working directory, or stops with the system's refusal. -/
def onDisk (change : Disk → Except Stop Disk) : Session Unit := do
  match change (← disk) with
  | .ok changed => alter fun studio => { studio with disk := changed }
  | .error stop => throw stop

/-- Waits a number of seconds. -/
def sleep (seconds : Number) : Session Unit :=
  call "sleep" [seconds.toDatum]

/-- A random draw between two ends: the next scripted number, or the lower end. -/
def draw (low high : Int) : Session Number := do
  call "uniform" [.int low, .int high]
  match (← world).draws with
  | next :: rest => alter (fun studio => { studio with draws := rest }); pure next
  | [] => pure (.whole low)

/-- The result of a computation on numbers; one that overflows stops the run. -/
def computed {α : Type} : Except String α → Session α
  | .ok value => pure value
  | .error message => raise .overflow message

end Session

open Session

namespace Transcriber

/-- Starts a run: loads the speech model and opens the photo service. -/
def start (run : Transcriber) : Session Unit := do
  call "load_model" [run.model]
  call "Instaloader"

/-- Waits in proportion to a number of links before the next one. -/
def backOff (count : Number) : Session Unit := do
  let pause ← computed (count.mul (← draw 1 3))
  say ("Preemptively backing off for " ++ (← computed pause.fixed2) ++ " seconds based on " ++
    count.text ++ " URLs...")
  sleep pause

/-- The wait after a refusal for too many requests in a round: `backoff ^ round` plus a draw from
`[0, 1]` seconds, announced and then slept. The power is taken before the draw is made. -/
def pause (run : Transcriber) (round : Nat) : Session Unit := do
  let grown ← computed (run.backoff.pow round)
  let pause ← computed (grown.add (← draw 0 1))
  say ("Rate limit hit. Retrying in " ++ (← computed pause.fixed2) ++ " seconds...")
  sleep pause

/-- Runs an attempt, again after a growing pause each time it is refused for too many
requests, until the retry limit; then gives up with nothing. Other failures pass through. -/
def retry {α : Type} (run : Transcriber) (attempt : Session α) : Session (Option α) :=
  let rec go (round : Nat) : Nat → Session (Option α)
    | 0 => do
      say "Max retries reached. Could not complete the request."
      pure none
    | left + 1 => tryCatch (some <$> attempt) fun
      | .raised .rateLimited _ => do
        run.pause round
        go (round + 1) left
      | stop => throw stop
  go 0 run.retryLimit.countsBelow

end Transcriber

/-- Removes a folder with everything in it the way the system's tree removal does: everything
inside goes first, then the folder itself (`Disk.removeFolder`), which the system may refuse to
remove, leaving it empty. The place the path leads to is recorded. -/
def removeTree (path : String) : Session Unit := do
  match (← disk).resolve path with
  | .error reason => throw (Disk.blocked reason path)
  | .ok place =>
    alter fun studio =>
      { studio with disk := studio.disk.clearUnder place, removed := studio.removed ++ [place] }
    onDisk (·.removeFolder path)

/-- Deletes a download folder with everything in it, unless its path is spelled `.` or `/`; a
path that is no folder is only reported. A whole number names no folder here,
and a list, a record or a float that is not empty cannot be looked up as a path. -/
def safeDelete (target : Datum) : Session Unit := do
  match target with
  | .str path =>
    if (← disk).isFolder path then
      if path = "." || path = "/" then say ("Skipping dangerous delete operation: " ++ path)
      else
        removeTree path
        say ("Deleted download directory: " ++ path)
    else say ("Directory not found or unsafe to delete: " ++ path)
  | .float _ | .list _ | .record _ =>
    if target.truthy then
      raise .wrongShape ("stat: path should be string, bytes, os.PathLike or integer, not " ++ target.shapeName)
    else say ("Directory not found or unsafe to delete: " ++ target.display)
  | other => say ("Directory not found or unsafe to delete: " ++ other.display)

end Listening.Media
