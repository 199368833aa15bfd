import Listening.Media.Fetch
import Listening.Media.VideoId
import Listening.Text.Blank

/-!
# Transcribing videos

Each video's sound is written next to it (its path without the extension, then `_` and its
position, then `.mp3`) and transcribed; a transcript with a non-blank character is kept under
`video_<position>`. The sound file and the video are deleted afterwards, and the download
folder last.

A run goes through its links in order, waiting before each. A link of the photo service gives
the post's videos; one of the video service gives its clip; one of the third service is looked
up for captions, and when it has them the transcripts of the previous transcribed link are kept
for it, while a link without captions, or one that comes before any transcribed link, falls
back to a clip download. Other links are skipped. The transcripts of each link are gathered
under the link.
-/

namespace Listening.Media

open Listening.World Listening.World.Scripted Listening.Media.Session

/-- The sound file of a video at a position in its list. -/
def soundPath (video : String) (position : Nat) : String :=
  withoutExtension video ++ "_" ++ toString position ++ ".mp3"

/-- Whether a transcript says anything: it has a non-blank character. -/
def spoken (text : String) : Bool :=
  text.toList.any fun c => !Text.isBlank c

/-- Transcribes one video at a position; its transcript, if it says anything. -/
def transcribeOne (video : Datum) (position : Nat) : Session (Option String) := do
  call "VideoFileClip" [video]
  let path ← match video with
    | .str path => pure path
    | other => raise .wrongShape ("expected str, bytes or os.PathLike object, not " ++ other.shapeName)
  let sound := soundPath path position
  call "write_audiofile" [.str sound]
  if (← scene).silent.contains path then
    raise .systemRefused ("audio extraction failed for " ++ path)
  onDisk (·.writeFile sound)
  say ("Extracted audio: " ++ sound)
  call "transcribe" [.str sound]
  let text := String.join ((lookup (← scene).speech sound).getD [" Hello there."])
  let kept := if spoken text then some text else none
  match kept with
  | some text => say ("Transcriptions for video_" ++ toString position ++ ": " ++ text)
  | none => say ("No speech detected in video " ++ toString position ++ ", skipping transcription.")
  if (← disk).holds sound then
    onDisk (·.removeFile sound)
    say ("Deleted audio file: " ++ sound)
  if (← disk).holds path then
    onDisk (·.removeFile path)
    say ("Deleted video file: " ++ path)
  pure kept

/-- Transcribes videos in order, then deletes their download folder if one is given. -/
def transcribeAll (videos : List Datum) (folder : Datum) : Session Transcripts := do
  let mut found : Transcripts := []
  for (video, position) in videos.zipIdx do
    if let some text ← transcribeOne video position then
      found := found ++ [("video_" ++ toString position, text)]
  if folder.truthy then safeDelete folder
  pure found

/-- The videos a downloaded clip gives (the clip, or nothing, in a list of one) and its folder. -/
def clipVideos (path : Option String) : List Datum × Datum :=
  match path with
  | some path => ([.str path], .str (folderOf path))
  | none => ([.none], .none)

/-- What a link gives before transcription: videos and their folder, or nothing to do. -/
inductive Found where
  | videos (paths : List Datum) (folder : Datum)
  | done

namespace Transcriber

/-- What one link gives, given the transcripts of the previous transcribed link. -/
def find (run : Transcriber) (previous : Option Transcripts) (link : String) : Session Found := do
  if holdsText link "instagram.com" then
    let (videos, code) ← run.fetchPost (.str link)
    pure (.videos ((videos.getD []).map .str) ((code.map .str).getD .none))
  else if holdsText link "tiktok.com" then
    let (videos, folder) := clipVideos (← fetchClip (.str link) ".")
    pure (.videos videos folder)
  else if holdsText link "youtube.com" then
    let id ← showVideoId (.str link)
    call "get_transcript" [.str id, .list [.str "en"]]
    match lookup (← scene).captions id, previous with
    | some _, some earlier =>
      alter fun studio => { studio with gathered := setKey studio.gathered link earlier }
      pure .done
    | _, _ =>
      let (videos, folder) := clipVideos (← fetchClip (.str link) ".")
      pure (.videos videos folder)
  else
    say ("Unsupported URL: " ++ link)
    pure .done

/-- Goes through one link, after a wait in proportion to the number of links: transcribes the
videos it gives and gathers their transcripts under it. Given the transcripts of the last
transcribed link, gives those after this link. -/
def visit (run : Transcriber) (count : Number) (previous : Option Transcripts) (link : String) :
    Session (Option Transcripts) := do
  backOff count
  say ("Processing URL: " ++ link)
  match ← run.find previous link with
  | .done => pure previous
  | .videos videos folder =>
    if videos.isEmpty then
      say ("No videos found for URL: " ++ link)
      pure previous
    else
      let found ← transcribeAll videos folder
      alter fun studio => { studio with gathered := setKey studio.gathered link found }
      pure (some found)

/-- Goes through every link and gathers the transcripts of each; all gathered transcripts. -/
def process (run : Transcriber) : Session (List (String × Transcripts)) := do
  let _ ← run.links.foldlM (run.visit (Number.whole run.links.length)) none
  return (← world).gathered

end Transcriber

/-- Transcripts by link as a datum. -/
def gatheredDatum (gathered : List (String × Transcripts)) : Datum :=
  .record (gathered.map fun (link, found) => (link, .record (found.map fun (key, text) => (key, .str text))))

/-- The links of the standing run. -/
def standingLinks : List String :=
  ["https://www.tiktok.com/@tonggeqichezhishi/video/7405039394328939806?is_from_webapp=1&sender_device=pc",
   "https://www.instagram.com/p/C_gNPhCRidF/", "https://www.instagram.com/p/C_51Jyhx59k/",
   "https://www.instagram.com/p/C_1JODaPW1y/"]

/-- The standing run: its links with default settings, then every transcript printed. -/
def standingRun : Session Unit := do
  let run : Transcriber := { links := standingLinks }
  run.start
  let gathered ← run.process
  say (gatheredDatum gathered).literal

end Listening.Media
