import Listening.Text.Word
import Listening.World.Script

/-!
# Video identifiers in links

The identifier of a video is the first run of word characters and hyphens that follows `v=` or
`be/` in a link: the leftmost place where such a run starts wins. A link without one has no
identifier.
-/

namespace Listening.Media

open Listening.World Listening.World.Scripted

/-- Characters an identifier is made of: word characters of any script, and the hyphen. -/
def isIdChar (c : Char) : Bool :=
  Text.isWordChar c || c == '-'

/-- Whether an identifier may start right after the text read so far (kept reversed). -/
def opensId (before : List Char) : Bool :=
  before.take 2 == ['=', 'v'] || before.take 3 == ['/', 'e', 'b']

/-- The first identifier at or after the rest of a link, given the part before it reversed. -/
def idFrom : List Char → List Char → Option String
  | _, [] => none
  | before, c :: rest =>
    if opensId before && isIdChar c then some (String.ofList ((c :: rest).takeWhile isIdChar))
    else idFrom (c :: before) rest

/-- The identifier of the video a link points to. -/
def videoId? (link : String) : Option String :=
  idFrom [] link.toList

/-- Finds and prints the identifier of a link handed in as a datum; a link without one fails
when the identifier is printed. -/
def showVideoId {σ : Type} : Datum → Scripted σ String
  | .str link => do
    match videoId? link with
    | some found => say found; pure found
    | none => raise .missingOperation "'NoneType' object has no attribute 'group'"
  | other => raise .wrongShape ("expected string or bytes-like object, got '" ++ other.shapeName ++ "'")

end Listening.Media
