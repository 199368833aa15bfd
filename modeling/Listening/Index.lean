/-!
# Positions counted from either end

A position in a list of `length` items may be negative, counting back from the end: `-1` is the
last item. As a cut point (the start or stop of a slice) a position is clamped to the list; as
the position of an item it must name one. A run of positions from a start towards a stop in
steps of a fixed size (positive or negative) stops before it reaches or passes the stop.
-/

namespace Listening

/-- A position as a cut point of a list of `length` items: a negative position counts back from
the end, and the result is clamped to `0 … length`. -/
def cutPoint (length : Nat) (position : Int) : Nat :=
  if position < 0 then (position + length).toNat else min position.toNat length

/-- The items between two cut points. -/
def slice {α : Type} (items : List α) (start stop : Int) : List α :=
  let first := cutPoint items.length start
  let last := cutPoint items.length stop
  (items.drop first).take (last - first)

/-- The item at a position that may count from the end. -/
def itemAt? {α : Type} (items : List α) (position : Int) : Option α :=
  if position < 0 then
    if (-position).toNat ≤ items.length then items[items.length - (-position).toNat]? else none
  else items[position.toNat]?

/-- The positions `start, start + step, …` that lie before `stop` (after it, for a negative
step). A zero step gives no positions; callers refuse it first. -/
def steps (start stop step : Int) : List Int :=
  if step > 0 then
    (List.range ((stop - start + step - 1) / step).toNat).map fun (k : Nat) => start + step * k
  else if step < 0 then
    (List.range ((start - stop - step - 1) / (-step)).toNat).map fun (k : Nat) => start + step * k
  else []

end Listening
