/-!
# Shortest decimal form of a binary float

A finite double is a rational `m · 2^q`. The reals that round to it form an interval around it:
half a unit of the last place on each side (a quarter below when the value is a power of two
above the smallest normal), ends included when `m` is even. The shortest decimal form is the
decimal with the fewest significant digits inside that interval; of two such decimals on the
same grid, the nearer one, and of two equally near, the one with the even last digit.

The search tries grids of one, two, ... seventeen significant digits. On each grid only the two
neighbours of the value can be the answer: if any point of the grid lies in the interval, the
neighbour on its side does too, because the interval is convex and holds the value.
-/

namespace Listening.Decimal

/-- A finite, non-zero binary value `mantissa · 2^exponent`, with the interval of reals that
round to it: from `(mantissa - below) · 2^exponent` to `(mantissa + above) · 2^exponent`, where
the half-widths are given in units of a quarter (so they stay whole numbers). -/
structure Binary where
  mantissa : Nat
  exponent : Int
  /-- Half-width below, in quarters of a unit: 2, or 1 at a power of two. -/
  below : Nat
  /-- Whether the ends of the interval round to this value. -/
  closed : Bool

/-- Decodes the magnitude of a finite, non-zero float from its bits. -/
def Binary.ofBits (bits : UInt64) : Binary :=
  let fraction := (bits &&& 0xFFFFFFFFFFFFF).toNat
  let biased := ((bits >>> 52) &&& 0x7FF).toNat
  if biased = 0 then
    ⟨fraction, -1074, 2, fraction % 2 == 0⟩
  else
    let mantissa := fraction + Nat.pow 2 52
    let below := if fraction = 0 && biased > 1 then 1 else 2
    ⟨mantissa, (biased : Int) - 1075, below, mantissa % 2 == 0⟩

/-- A decimal `significand · 10^exponent`. -/
structure Scaled where
  significand : Nat
  exponent : Int
deriving Repr, DecidableEq

/-- `a · 2^p` compared with `b · 10^r`, both sides scaled to whole numbers: the sign of
`a · 2^p - b · 10^r` as an ordering. -/
def compareScaled (a : Nat) (p : Int) (b : Nat) (r : Int) : Ordering :=
  let left := a * Nat.pow 2 p.toNat * Nat.pow 10 (-r).toNat
  let right := b * Nat.pow 10 r.toNat * Nat.pow 2 (-p).toNat
  compare left right

/-- The number of decimal digits of a positive whole number. -/
def digitCount (n : Nat) : Nat :=
  (Nat.toDigits 10 n).length

/-- The decimal exponent `e` with `10^e ≤ value < 10^(e+1)` for `value = m · 2^q`, found by
scaling to whole numbers. -/
def leadingExponent (mantissa : Nat) (exponent : Int) : Int :=
  -- with k = max 0 (-exponent), value · 10^k = mantissa · 2^(max 0 exponent) · 5^k is whole
  let k : Nat := (-exponent).toNat
  let scaled := mantissa * Nat.pow 2 exponent.toNat * Nat.pow 5 k
  (digitCount scaled : Int) - 1 - k

/-- Whether `c · 10^r` lies in the rounding interval of `b`. -/
def Binary.holds (b : Binary) (c : Nat) (r : Int) : Bool :=
  -- interval ends, in quarters: (4m - below) · 2^(q-2) and (4m + 2) · 2^(q-2)
  let low := compareScaled (4 * b.mantissa - b.below) (b.exponent - 2) c r
  let high := compareScaled (4 * b.mantissa + 2) (b.exponent - 2) c r
  if b.closed then low != .gt && high != .lt
  else low == .lt && high == .gt

/-- The candidates on the grid of step `10^r`: the largest grid point not above the value and
the next one, as multiples of the step. -/
def Binary.neighbours (b : Binary) (r : Int) : Nat × Nat :=
  -- floor(m · 2^q / 10^r)
  let num := b.mantissa * Nat.pow 2 b.exponent.toNat * Nat.pow 10 (-r).toNat
  let den := Nat.pow 2 (-b.exponent).toNat * Nat.pow 10 r.toNat
  let down := num / den
  (down, down + 1)

/-- The nearer of two grid points to the value (the even one on a tie), among those that lie in
the interval. -/
def Binary.pick (b : Binary) (r : Int) : Option Nat :=
  let (down, up) := b.neighbours r
  match b.holds down r, b.holds up r with
  | false, false => none
  | true, false => some down
  | false, true => some up
  | true, true =>
    -- distances: value - down·10^r against up·10^r - value, i.e. 2·value against (down+up)·10^r
    match compareScaled (2 * b.mantissa) b.exponent (down + up) r with
    | .lt => some down
    | .gt => some up
    | .eq => some (if down % 2 == 0 then down else up)

/-- Removes trailing zeros of a decimal. -/
def Scaled.trim (d : Scaled) : Scaled :=
  if h : d.significand ≠ 0 ∧ d.significand % 10 = 0 then
    have : d.significand / 10 < d.significand := Nat.div_lt_self (Nat.pos_of_ne_zero h.1) (by decide)
    Scaled.trim ⟨d.significand / 10, d.exponent + 1⟩
  else d
termination_by d.significand

/-- The shortest decimal of a binary value: the first grid, from one significant digit up to
seventeen, that has a point in the rounding interval. Seventeen digits always suffice; the exact
value stands behind the search only to make it total. -/
def Binary.shortest (b : Binary) : Scaled :=
  let lead := leadingExponent b.mantissa b.exponent
  match (List.range 17).findSome? (fun (extra : Nat) => (b.pick (lead - extra)).map (·, lead - extra)) with
  | some (significand, exponent) => Scaled.trim ⟨significand, exponent⟩
  | none => ⟨b.mantissa * Nat.pow 2 b.exponent.toNat, 0⟩

end Listening.Decimal
