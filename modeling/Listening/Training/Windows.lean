import Listening.Index

/-!
# Training windows

A sequence of token identifiers yields training samples: windows of `size` tokens starting at
`0, stride, 2 · stride, …` while the start is before `length - size`, each paired with the
window one token further on (its target). Windows are cut as slices, so a start or end beyond
the sequence is clamped and negative positions count from the end.
-/

namespace Listening.Training

/-- Why windows cannot be cut. -/
inductive WindowFault where
  /-- The stride is zero. -/
  | zeroStride
deriving DecidableEq, Repr

/-- The message of a window fault. -/
def WindowFault.message : WindowFault → String
  | .zeroStride => "range() arg 3 must not be zero"

/-- The start positions of the windows. -/
def windowStarts (length size stride : Int) : List Int :=
  steps 0 (length - size) stride

/-- The windows of a sequence with their targets. -/
def windows {α : Type} (ids : List α) (size stride : Int) :
    Except WindowFault (List (List α × List α)) :=
  if stride = 0 then .error .zeroStride
  else .ok ((windowStarts ids.length size stride).map fun start =>
    (slice ids start (start + size), slice ids (start + 1) (start + size + 1)))

end Listening.Training
