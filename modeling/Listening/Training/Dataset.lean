import Listening.Training.Windows
import Listening.World.Script

/-!
# Training samples from an encoded text

A text is encoded into token identifiers by a named encoding of the world, and the identifiers
are cut into windows with their targets (`windows`). A loader run always uses the `gpt2`
encoding and hands the samples, with its batch options, to a data loader of the world.

The encodings a world knows are given as a table from texts to identifier lists; a text that is
not in the table has no encoding.
-/

namespace Listening.Training

open Listening.World Listening.World.Scripted

/-- The identifiers each text encodes to. -/
structure Encodings where
  table : List (String × List Datum) := []

/-- The encoding a text is read with unless another is named. -/
def defaultEncoding : String := "gpt2"

/-- The window size of a loader run unless another is given. -/
def loaderWindow : Int := 256

/-- The stride of a loader run unless another is given. -/
def loaderStride : Int := 128

/-- Training samples: input windows with their target windows. -/
abbrev Samples := List (List Datum × List Datum)

/-- Encodes a text with a named encoding of the world, recording both steps. -/
def encodeWith (encoding text : String) : Scripted Encodings (List Datum) := do
  call "get_encoding" [.str encoding]
  call "encode" [.str text]
  match ((← world).table.find? (·.1 == text)).map (·.2) with
  | some ids => pure ids
  | none => raise .missingKey (Text.literal text)

/-- The samples of a text under a named encoding. -/
def samples (encoding text : String) (size stride : Int) : Scripted Encodings Samples := do
  let ids ← encodeWith encoding text
  match windows ids size stride with
  | .ok cut => pure cut
  | .error fault => raise .wrongValue fault.message

/-- The options a loader hands over with its samples. -/
structure LoaderOptions where
  batchSize : Datum := .int 4
  shuffle : Datum := .bool true
  dropLast : Datum := .bool true
  workers : Datum := .int 0

/-- The options as the record a data loader receives. -/
def LoaderOptions.toDatum (options : LoaderOptions) : Datum :=
  .record [("batch_size", options.batchSize), ("drop_last", options.dropLast),
    ("num_workers", options.workers), ("shuffle", options.shuffle)]

/-- A loader run: the samples under the `gpt2` encoding, handed to a data loader. -/
def loadSamples (text : String) (options : LoaderOptions) (size stride : Int) :
    Scripted Encodings Samples := do
  let cut ← samples "gpt2" text size stride
  call "DataLoader" [options.toDatum]
  pure cut

end Listening.Training
