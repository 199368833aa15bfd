import Listening.Text.Blank
import Listening.World.Script

/-!
# Shortened personal names

A name is shortened to its first and last parts when it has a middle part: the parts are the
runs of non-blank characters (every Unicode white space separates), and a name of one or two
parts comes back exactly as given, spacing included.
-/

namespace Listening.Social

open Listening.World Listening.World.Scripted

/-- The parts of a name: its maximal runs of non-blank characters, in order. -/
def nameParts (name : String) : List String :=
  ((name.toList.splitBy fun a b => Text.isBlank a == Text.isBlank b).filter fun run =>
    run.any fun c => !Text.isBlank c).map String.ofList

/-- A name without its middle parts: the first and the last part joined by one space when
there are more than two parts, and the name itself otherwise. -/
def shortenName (name : String) : String :=
  match nameParts name with
  | first :: _ :: last :: rest => first ++ " " ++ (last :: rest).getLast (by simp)
  | _ => name

/-- Shortens a name handed in as a datum; only a text has parts. -/
def shortenDatum {σ : Type} : Datum → Scripted σ String
  | .str name => pure (shortenName name)
  | other => raise .missingOperation ("'" ++ other.shapeName ++ "' object has no attribute 'split'")

end Listening.Social
