import Listening.World.Script
import Listening.Index
import Listening.Text.Case

/-!
# Desktop wallpapers

Wallpapers are set through one script for the desktop scripting service: a `tell` block with a
line `set picture of desktop D to "PATH"` per desktop, where a double quote in the path is
written after a backslash. Each assignment is also printed.

Between two rounds of assignments a countdown window shows the seconds from `n` down to `0`,
one a second, and then closes. The window is driven by timer callbacks: each tick updates the
label and asks for the next tick; a tick below zero closes the window.

The full run lists the images of the wallpapers folder (by file extension, any letter case),
shuffles them, sets desktops 1 to 3 from the first three, counts down five seconds and sets
desktops 1 to 3 from the next three. It needs six images.
-/

namespace Listening.Desktop

open Listening.World Listening.World.Scripted

/-- A path as written inside the script's quotes. -/
def escapeQuotes (path : String) : String :=
  String.ofList (path.toList.flatMap fun c => if c = '"' then ['\\', '"'] else [c])

/-- The first line of a wallpaper script. -/
def scriptHead : String := "tell application \"System Events\""

/-- The last line of a wallpaper script. -/
def scriptEnd : String := "end tell"

/-- The script line that gives desktop `desktop` wallpaper `position`, printed as it is made; a
wallpaper that is missing or no text stops the run. -/
def assignment (wallpapers : List Datum) : Datum × Nat → Script String
  | (desktop, position) => do
    let wallpaper ← match wallpapers[position]? with
      | some datum => pure datum
      | none => raise .missingPosition "list index out of range"
    let path ← match wallpaper with
      | .str path => pure path
      | other => raise .missingOperation ("'" ++ other.shapeName ++ "' object has no attribute 'replace'")
    say ("Assigned new wallpaper to desktop " ++ desktop.display ++ ": " ++ path)
    pure ("set picture of desktop " ++ desktop.display ++ " to \"" ++ escapeQuotes path ++ "\"")

/-- Sets wallpapers on desktops: desktop `i` of the list gets wallpaper `i`, all through one
script. -/
def setWallpapers (desktops wallpapers : List Datum) : Script Unit := do
  let lines ← desktops.zipIdx.mapM (assignment wallpapers)
  call "run" [.list [.str "osascript", .str "-e",
    .str ("\n".intercalate (scriptHead :: lines ++ [scriptEnd]))]]

/-- The seconds a countdown shows: a whole number or a float (a truth value counts as a whole
number). -/
inductive Seconds where
  | whole (value : Int)
  | float (value : Float)
  | truth (value : Bool)

namespace Seconds

/-- Whether the count is still at or above zero. -/
def atLeastZero : Seconds → Bool
  | whole value => value ≥ 0
  | float value => value ≥ 0
  | truth _ => true

/-- The label text of a count. -/
def label : Seconds → Datum
  | whole value => .str (toString value)
  | float value => .str (Datum.float value).display
  | truth value => .str (Datum.bool value).display

/-- The count one second later. -/
def next : Seconds → Seconds
  | whole value => whole (value - 1)
  | float value => float (value - 1)
  | truth value => whole ((if value then 1 else 0) - 1)

/-- How many ticks show a label before the count drops below zero. -/
def ticks : Seconds → Nat
  | whole value => (value + 1).toNat
  | float value => if value ≥ 0 then value.floor.toUInt64.toNat + 1 else 0
  | truth value => if value then 2 else 1

end Seconds

/-- Runs the ticks of the countdown after the window's loop has started: each shows the count
and asks for the next tick, until the count is below zero and the window closes. -/
def tickLoop : Nat → Seconds → Script Unit
  | 0, _ => call "destroy"
  | more + 1, seconds =>
    if seconds.atLeastZero then do
      call "config" [.record [("text", seconds.label)]]
      call "after" [.int 1000]
      tickLoop more seconds.next
    else call "destroy"

/-- Shows a countdown window from a number of seconds. -/
def countdown (seconds : Datum) : Script Unit := do
  call "Tk"
  call "title" [.str "Countdown Timer"]
  call "geometry" [.str "300x150"]
  call "resizable" [.bool false, .bool false]
  call "Label" [.str "", .list [.str "Helvetica", .int 48]]
  call "pack" [.record [("expand", .bool true)]]
  let count ← match seconds with
    | .int value => pure (Seconds.whole value)
    | .float value => pure (Seconds.float value)
    | .bool value => pure (Seconds.truth value)
    | other =>
      raise .wrongShape ("'>=' not supported between instances of '" ++ other.shapeName ++ "' and 'int'")
  if count.atLeastZero then
    call "config" [.record [("text", count.label)]]
    call "after" [.int 1000]
    call "mainloop"
    tickLoop count.ticks count.next
  else
    call "destroy"
    call "mainloop"

/-- The folder of wallpapers, as the run prints it. -/
def wallpapersFolder : String := "~/Desktop/Wallpapers"

/-- The file extensions of images. -/
def imageExtensions : List String := [".png", ".jpg", ".jpeg", ".bmp", ".gif", ".tiff"]

/-- Whether a file name names an image. -/
def isImage (name : String) : Bool :=
  let lowered := Text.lower name
  imageExtensions.any fun extension => lowered.endsWith extension

/-- The last part of a path. -/
def baseName (path : String) : String :=
  (path.splitOn "/").getLast?.getD path

/-- The images of the folder, as full paths sorted by code point. Entries ending in a slash are
folders. -/
def folderImages (entries : List String) : List String :=
  let files := entries.filter fun entry => !entry.endsWith "/" && isImage (baseName entry)
  (files.map fun file => wallpapersFolder ++ "/" ++ file).mergeSort (· ≤ ·)

/-- The full run: list, check, shuffle, two rounds of assignments around a countdown.
`order` gives the shuffled order: position `i` takes the image at `order[i]`. -/
def rotate (entries : List String) (order : Option (List Nat)) : Script Unit := do
  let images := folderImages entries
  if images.isEmpty then
    say ("No wallpapers found in '" ++ wallpapersFolder ++ "'")
    exitWith 1
  if images.length < 6 then
    say ("Not enough wallpapers (" ++ toString images.length ++ ") for 6 wallpapers.")
    say "Please add more wallpapers to your Wallpapers folder."
    exitWith 1
  let shuffled := match order with
    | some positions => positions.filterMap fun position => images[position]?
    | none => images
  call "shuffle" [.int images.length]
  let desktops : List Datum := [.int 1, .int 2, .int 3]
  setWallpapers desktops ((shuffled.take 3).map Datum.str)
  countdown (.int 5)
  setWallpapers desktops (((shuffled.drop 3).take 3).map Datum.str)

end Listening.Desktop
