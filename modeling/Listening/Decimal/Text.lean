import Listening.Decimal.Shortest

/-!
# Decimal text of floats

Two ways to write a float. The short form writes the shortest decimal that reads back: between
`1e-4` and `1e16` positionally with at least one digit after the point (`6.0`, `0.0001`), else
as one digit, the other digits after a point, and an exponent of at least two digits with its
sign (`1e+16`, `1.5e-05`). The fixed form writes a given number of places after the point,
rounding the exact binary value, a half to the even neighbour.
-/

namespace Listening.Decimal

/-- The digits of a whole number, padded with zeros in front to `width`. -/
def padDigits (width value : Nat) : String :=
  let digits := Nat.toDigits 10 value
  String.ofList (List.replicate (width - digits.length) '0' ++ digits)

/-- The sign of a float as written: a minus for a set sign bit, also on zero. -/
def signText (x : Float) : String :=
  if x.toBits >>> 63 == 1 then "-" else ""

/-- The short form of a float. -/
def shortText (x : Float) : String :=
  if x.isNaN then "nan"
  else if x.isInf then signText x ++ "inf"
  else if x.toBits &&& 0x7FFFFFFFFFFFFFFF == 0 then signText x ++ "0.0"
  else
    let d := (Binary.ofBits x.toBits).shortest
    let digits := Nat.toDigits 10 d.significand
    let count := digits.length
    let point : Int := count + d.exponent
    let body :=
      if point ≤ -4 || point > 16 then
        let power := point - 1
        let head := match digits with
          | first :: more@(_ :: _) => String.ofList (first :: '.' :: more)
          | _ => String.ofList digits
        head ++ "e" ++ (if power < 0 then "-" else "+") ++ padDigits 2 power.natAbs
      else if point ≤ 0 then
        "0." ++ String.ofList (List.replicate (-point).toNat '0' ++ digits)
      else if point < count then
        String.ofList (digits.take point.toNat ++ '.' :: digits.drop point.toNat)
      else
        String.ofList (digits ++ List.replicate (point.toNat - count) '0') ++ ".0"
    signText x ++ body

/-- A quotient of whole numbers rounded to the nearest whole number, a half to the even one. -/
def roundHalfEven (num den : Nat) : Nat :=
  let down := num / den
  let twice := 2 * (num % den)
  if twice < den then down
  else if twice > den then down + 1
  else if down % 2 == 0 then down else down + 1

/-- The fixed form of a float with `places` digits after the point. -/
def fixedText (places : Nat) (x : Float) : String :=
  if x.isNaN then "nan"
  else if x.isInf then signText x ++ "inf"
  else
    let bits := x.toBits
    let scaled :=
      if bits &&& 0x7FFFFFFFFFFFFFFF == 0 then 0
      else
        let b := Binary.ofBits bits
        roundHalfEven (b.mantissa * Nat.pow 2 b.exponent.toNat * Nat.pow 10 places)
          (Nat.pow 2 (-b.exponent).toNat)
    let whole := scaled / Nat.pow 10 places
    let fraction := scaled % Nat.pow 10 places
    signText x ++ toString whole ++ (if places = 0 then "" else "." ++ padDigits places fraction)

end Listening.Decimal
