import Listening.Media.Transcribe

/-!
# Calling a run's steps by name

Each step of a transcription run can be called by name with a list of arguments. A step takes
its required arguments first and its optional ones after; a call with too few or too many is
refused with a message that names the step and what was wrong, the way the run's own language
words it (the run itself counts as the first argument).
-/

namespace Listening.Media

open Listening.World Listening.World.Scripted Listening.Media.Session

/-- A step callable by name: where it is defined, and its required and optional arguments. -/
structure Method where
  owner : String
  name : String
  required : List String
  optional : List String := []

/-- Argument names as a message lists them: `'a'`, `'a' and 'b'`, `'a', 'b', and 'c'`. -/
def quotedNames (names : List String) : String :=
  let quoted := names.map fun name => "'" ++ name ++ "'"
  match quoted with
  | [one] => one
  | [first, second] => first ++ " and " ++ second
  | _ => ", ".intercalate quoted.dropLast ++ ", and " ++ quoted.getLast?.getD ""

/-- The refusal of a call with a number of arguments, if it is refused. -/
def Method.refusal (method : Method) (given : Nat) : Option String :=
  let title := method.owner ++ "." ++ method.name ++ "()"
  let least := method.required.length
  let most := least + method.optional.length
  let plural (count : Nat) : String := if count = 1 then "" else "s"
  if given < least then
    let missing := method.required.drop given
    some (title ++ " missing " ++ toString missing.length ++ " required positional argument" ++
      plural missing.length ++ ": " ++ quotedNames missing)
  else if given > most then
    let takes := if least = most then toString (most + 1) ++ " positional argument" ++ plural (most + 1)
      else "from " ++ toString (least + 1) ++ " to " ++ toString (most + 1) ++ " positional arguments"
    some (title ++ " takes " ++ takes ++ " but " ++ toString (given + 1) ++ " were given")
  else none

/-- The items a datum yields when gone through: a list's items, a text's characters, a
record's keys. -/
def itemsOf {σ : Type} : Datum → Scripted σ (List Datum)
  | .list items => pure items
  | .str text => pure (text.toList.map fun c => .str c.toString)
  | .record fields => pure (fields.map fun field => .str field.1)
  | other => raise .wrongShape ("'" ++ other.shapeName ++ "' object is not iterable")

/-- The steps of a run by name, with what each returns as a datum. -/
def Transcriber.step (run : Transcriber) (name : String) : Option (Method × (List Datum → Session Datum)) :=
  match name with
  | "process_urls" => some (⟨"Transcriber", name, [], []⟩, fun _ => do
      return gatheredDatum (← run.process))
  | "download_instagram_videos" => some (⟨"Transcriber", name, ["url", "loader"], []⟩, fun args => do
      let (videos, code) ← run.fetchPost (args.headD .none)
      return .list [(videos.map fun paths => Datum.list (paths.map .str)).getD .none,
        (code.map .str).getD .none])
  | "download_tiktok_video" => some (⟨"Transcriber", name, ["url"], ["output_path"]⟩, fun args => do
      let folder := match args[1]? with
        | some value => value.display
        | none => "."
      return ((← fetchClip (args.headD .none) folder).map .str).getD .none)
  | "transcribe_videos" => some (⟨"Transcriber", name, ["videos", "download_dir"], []⟩, fun args => do
      let videos ← itemsOf (args.headD .none)
      let found ← transcribeAll videos (args[1]?.getD .none)
      return .record (found.map fun (key, text) => (key, .str text)))
  | "preemptive_backoff" => some (⟨"Downloader", name, ["num_urls"], []⟩, fun args => do
      match (args.headD .none) |> Number.ofDatum? with
      | some count => Transcriber.backOff count
      | none => raise .wrongShape "can't multiply sequence by non-int of type 'float'"
      return .none)
  | "safe_delete_directory" => some (⟨"Transcriber", name, ["directory"], []⟩, fun args => do
      safeDelete (args.headD .none)
      return .none)
  | "get_video_id" => some (⟨"Transcriber", name, ["url"], []⟩, fun args => do
      return .str (← showVideoId (args.headD .none)))
  | _ => none

/-- Calls a step by name: starts the run, then checks the arguments and runs the step. Nothing
for a name that is no step. -/
def Transcriber.invoke (run : Transcriber) (name : String) (args : List Datum) : Option (Session Datum) :=
  (run.step name).map fun (method, body) => do
    run.start
    match method.refusal args.length with
    | some message => raise .wrongShape message
    | none => body args

end Listening.Media
