import Listening.Datum
import Listening.Decimal.Text

/-!
# Numbers as scripts compute them

Waiting times and counts are whole numbers until a double enters: a sum, product or power of
two whole numbers is whole, and any double among the operands makes the result a double. A
number keeps that kind, so it is logged as the script computed it (`1` or `1.0`).

Whole numbers are unbounded, doubles are not: a whole number that must become a double (beside
a double in a sum or product, or to be written with two places) overflows when it is too large
for one, and so does the power of a finite double that comes out infinite.
-/

namespace Listening

/-- A whole number or a double. -/
inductive Number where
  | whole (value : Int)
  | real (value : Float)

namespace Number

/-- The message of a whole number too large to become a double. -/
def tooLarge : String := "int too large to convert to float"

/-- The message of a power of a double too large for a double. -/
def outOfRange : String := "(34, 'Numerical result out of range')"

/-- The least whole number too large to become a double: rounded to the nearest double, ties to
even, it goes up to `2 ^ 1024`, past the largest double `2 ^ 1024 - 2 ^ 971`. -/
def doubleBound : Nat := Nat.pow 2 1024 - Nat.pow 2 970

/-- The number as a double, the way a script turns a whole number into one: nothing when the
whole number is too large for a double. -/
def toDouble? : Number → Option Float
  | whole value => if value.natAbs < doubleBound then some (Float.ofInt value) else none
  | real value => some value

/-- Two numbers as doubles, or the overflow of one too large for a double. -/
def doubles (a b : Number) : Except String (Float × Float) :=
  match a.toDouble?, b.toDouble? with
  | some x, some y => .ok (x, y)
  | _, _ => .error tooLarge

/-- The sum; whole when both are. Beside a double, a whole number too large for a double
overflows. -/
def add : Number → Number → Except String Number
  | whole a, whole b => .ok (whole (a + b))
  | a, b => (doubles a b).map fun (x, y) => real (x + y)

/-- The product; whole when both are. Beside a double, a whole number too large for a double
overflows. -/
def mul : Number → Number → Except String Number
  | whole a, whole b => .ok (whole (a * b))
  | a, b => (doubles a b).map fun (x, y) => real (x * y)

/-- A power with a whole exponent; whole when the base is. The power of a finite double that is
too large for a double overflows. -/
def pow : Number → Nat → Except String Number
  | whole a, n => .ok (whole (Int.pow a n))
  | real a, n =>
    let result := Float.pow a (Float.ofNat n)
    if result.isInf && !a.isInf then .error outOfRange else .ok (real result)

/-- The least whole number at or above a positive finite double, taken exactly from its bits:
for `mantissa · 2 ^ exponent`, the mantissa divided by `2 ^ -exponent` and rounded up. -/
def ceiling (x : Float) : Nat :=
  let binary := Decimal.Binary.ofBits x.toBits
  let unit := Nat.pow 2 (-binary.exponent).toNat
  (binary.mantissa * Nat.pow 2 binary.exponent.toNat + unit - 1) / unit

/-- How many counts `0, 1, 2, …` lie below a number: none below a limit that is not positive,
and below a positive double those below its ceiling, however large. The counts below an infinite
limit never end; here they stop at `2 ^ 1024`, past the ceiling of every finite double. -/
def countsBelow : Number → Nat
  | whole limit => limit.toNat
  | real limit =>
    if 0 < limit then (if limit.isInf then Nat.pow 2 1024 else ceiling limit) else 0

/-- Whether a double is exactly the whole number `n`, as a script compares the two: a finite
double of the same sign whose value `mantissa · 2 ^ exponent` is `n` with nothing rounded. -/
def isExactly (x : Float) (n : Int) : Bool :=
  if x.isNaN || x.isInf then false
  else if x.toBits &&& 0x7FFFFFFFFFFFFFFF == 0 then n == 0
  else
    let binary := Decimal.Binary.ofBits x.toBits
    (x.toBits >>> 63 == 1) == decide (n < 0) &&
      Decimal.compareScaled binary.mantissa binary.exponent n.natAbs 0 == .eq

/-- Whether two numbers are equal as a script compares them: by their exact values, so a double
equals a whole number only when it is exactly that number. -/
def equals : Number → Number → Bool
  | whole a, whole b => a == b
  | real a, real b => a == b
  | whole a, real b => isExactly b a
  | real a, whole b => isExactly a b

/-- A number handed in as a datum; a truth value counts as `0` or `1`. -/
def ofDatum? : Datum → Option Number
  | .int value => some (whole value)
  | .float value => some (real value)
  | .bool value => some (whole (if value then 1 else 0))
  | _ => none

/-- The number as a datum. -/
def toDatum : Number → Datum
  | whole value => .int value
  | real value => .float value

/-- The number written with two places after the point; a whole number too large for a double
overflows. -/
def fixed2 (number : Number) : Except String String :=
  match number.toDouble? with
  | some x => .ok (Decimal.fixedText 2 x)
  | none => .error tooLarge

/-- The number written as a script prints it. -/
def text : Number → String
  | whole value => toString value
  | real value => Decimal.shortText value

end Number

end Listening
