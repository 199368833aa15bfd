import Listening.Media.Studio
import Listening.Index

/-!
# Downloading videos

Posts of the photo service are named by the second-to-last part of their link (split at `/`).
A post is looked up, then downloaded into a folder named by its code, with retries while the
service refuses for too many requests; the videos are the `.mp4` files of that folder, in name
order. Any failure on the way is reported and gives nothing.

Clips of the video service are downloaded into a folder (the working directory unless another
is given) under their title and extension, `video` and `mp4` when the service gives none. The
download is complete when the file is there afterwards.
-/

namespace Listening.Media

open Listening.World Listening.World.Scripted Listening.Media.Session

/-- The files a post holds when the scene names none. -/
def Post.defaultFiles (code : String) : List String :=
  [code ++ "_1.mp4", code ++ "_1.jpg"]

/-- Downloads a post into a folder: refused while the post still has refusals for too many
requests, then failing or writing the post's files as the scene says. -/
def downloadPost (code target : String) : Session Unit := do
  call "download_post" [.str code, .str target]
  let post := (lookup (← scene).posts code).getD {}
  let refused := (lookup (← world).refused code).getD 0
  if refused < post.rateLimits then
    alter fun studio => { studio with refused := setKey studio.refused code (refused + 1) }
    raise .rateLimited "429 Too Many Requests"
  if let some message := post.failure then raise .postUnreachable message
  if post.create then
    onDisk (·.makeFolders target)
    for name in post.files.getD (Post.defaultFiles code) do
      onDisk (·.writeFile (joinPath target name))

/-- The videos of a post and the folder they are in; on a failure, the message is printed and
both are missing. -/
def Transcriber.fetchPost (run : Transcriber) (link : Datum) :
    Session (Option (List String) × Option String) :=
  tryCatch (do
    let parts ← match link with
      | .str text => pure (pathNames text)
      | other => raise .missingOperation ("'" ++ other.shapeName ++ "' object has no attribute 'split'")
    let code ← match itemAt? parts (-2) with
      | some code => pure code
      | none => raise .missingPosition "list index out of range"
    call "Post.from_shortcode" [.str code]
    if let some message := ((lookup (← scene).posts code).bind (·.refusal)) then
      raise .badResponse message
    let _ ← run.retry (downloadPost code code)
    let names ← match (← disk).namesIn code with
      | .ok names => pure names
      | .error stop => throw stop
    let videos := (names.filter (·.endsWith ".mp4")).map (joinPath code ·)
    if videos.isEmpty then
      say "No videos found in the post."
      pure (none, some code)
    else
      say ("Videos downloaded successfulyy: " ++ (Datum.list (videos.map .str)).literal)
      pure (some videos, some code))
    fun
    | .raised _ message => do
      say ("An error occurred: " ++ message)
      pure (none, none)
    | stop => throw stop

/-- The name a clip's file is saved under: its title and extension, `video` and `mp4` in place of
one that is missing or empty. -/
def Clip.savedName (clip : Clip) : String :=
  let named (given : Option Datum) (fallback : String) : String :=
    match given with
    | some value => if value.truthy then value.display else fallback
    | none => fallback
  named clip.title "video" ++ "." ++ named clip.extension "mp4"

/-- The name the service reports for a clip's file: its title and extension as given, `video` and
`mp4` in place of one that is missing. -/
def Clip.reportedName (clip : Clip) : String :=
  (clip.title.map Datum.display).getD "video" ++ "." ++ (clip.extension.map Datum.display).getD "mp4"

/-- What the video service holds for a link: the scene's clip, or the default one. -/
def Scene.clipOf (scene : Scene) (link : Datum) : Clip :=
  (link.text?.bind (lookup scene.clips ·)).getD {}

/-- Downloads a clip into a folder; the path of the file under the name the service reports, or
nothing when no file is there. -/
def fetchClip (link : Datum) (folder : String) : Session (Option String) := do
  call "YoutubeDL" [.record [("no-playlist", .bool true), ("no_check_certificate", .bool true),
    ("outtmpl", .str (folder ++ "/%(title)s.%(ext)s"))]]
  call "extract_info" [link, .bool true]
  let clip := (← scene).clipOf link
  if let some message := clip.failure then raise .downloadFailed message
  if clip.create then
    onDisk (·.makeFolders folder)
    onDisk (·.writeFile (folder ++ "/" ++ clip.savedName))
  let path := joinPath folder clip.reportedName
  if (← disk).holds path then
    say ("Download complete: " ++ path)
    pure (some path)
  else
    say "Error: File not found."
    pure none

end Listening.Media
