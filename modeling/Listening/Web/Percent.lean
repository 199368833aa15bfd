import Listening.Text.Quoted

/-!
# Percent-encoding

Text travels in links percent-encoded: every byte of a character's UTF-8 form that is not a
letter, digit, `_ . - ~` or `/` is written `%XX` with upper-case hex digits.

Decoding turns each `%XX` with two hex digits into its byte and keeps every other `%`. The bytes
of each run of ASCII characters are then read as UTF-8, where each malformed piece (a byte that
cannot start a character, or a character cut short) becomes one replacement character `�`;
characters beyond ASCII are kept as they are.
-/

namespace Listening.Web

/-- The UTF-8 bytes of a character. -/
def utf8Bytes (c : Char) : List Nat :=
  let n := c.toNat
  if n < 0x80 then [n]
  else if n < 0x800 then [0xC0 + n / 0x40, 0x80 + n % 0x40]
  else if n < 0x10000 then [0xE0 + n / 0x1000, 0x80 + n / 0x40 % 0x40, 0x80 + n % 0x40]
  else [0xF0 + n / 0x40000, 0x80 + n / 0x1000 % 0x40, 0x80 + n / 0x40 % 0x40, 0x80 + n % 0x40]

/-- What a leading byte asks for: the number of continuation bytes, the range the first of them
must lie in, and the bits the leading byte gives. Nothing for a byte that starts no character. -/
def leadShape (b : Nat) : Option (Nat × Nat × Nat × Nat) :=
  if 0xC2 ≤ b && b ≤ 0xDF then some (1, 0x80, 0xBF, b - 0xC0)
  else if b = 0xE0 then some (2, 0xA0, 0xBF, 0)
  else if b = 0xED then some (2, 0x80, 0x9F, 0xD)
  else if 0xE1 ≤ b && b ≤ 0xEF then some (2, 0x80, 0xBF, b - 0xE0)
  else if b = 0xF0 then some (3, 0x90, 0xBF, 0)
  else if b = 0xF4 then some (3, 0x80, 0x8F, 4)
  else if 0xF1 ≤ b && b ≤ 0xF3 then some (3, 0x80, 0xBF, b - 0xF0)
  else none

/-- How many of the next `count` bytes continue a character, the first within `low` to `high`
and the rest within `0x80` to `0xBF`, stopping at the first that does not. -/
def continuing (count low high : Nat) : List Nat → Nat
  | [] => 0
  | b :: rest =>
    if count = 0 then 0
    else if low ≤ b && b ≤ high then 1 + continuing (count - 1) 0x80 0xBF rest
    else 0

/-- Reads bytes as UTF-8; each malformed piece becomes one replacement character. -/
def decodeUtf8 (bytes : List Nat) : List Char :=
  match bytes with
  | [] => []
  | b :: rest =>
    if b < 0x80 then Char.ofNat b :: decodeUtf8 rest
    else match leadShape b with
      | none => '\uFFFD' :: decodeUtf8 rest
      | some (count, low, high, bits) =>
        let good := continuing count low high rest
        if good = count then
          let value := (rest.take count).foldl (fun acc byte => acc * 0x40 + (byte - 0x80)) bits
          Char.ofNat value :: decodeUtf8 (rest.drop count)
        else '\uFFFD' :: decodeUtf8 (rest.drop good)
termination_by bytes.length
decreasing_by
  all_goals simp only [List.length_cons, List.length_drop]
  all_goals omega

/-- Whether a character stands for itself in an encoded link. -/
def keptInLinks (c : Char) : Bool :=
  c.isAlphanum && c.toNat < 0x80 || c == '_' || c == '.' || c == '-' || c == '~' || c == '/'

/-- A byte as `%XX`. -/
def percentByte (byte : Nat) : String :=
  "%" ++ String.ofList (Text.hexDigits 2 byte |>.map Char.toUpper)

/-- A text percent-encoded for a link. -/
def quote (text : String) : String :=
  String.join (text.toList.map fun c =>
    if keptInLinks c then c.toString else String.join ((utf8Bytes c).map percentByte))

/-- The value of a hex digit. -/
def hexValue? (c : Char) : Option Nat :=
  if '0' ≤ c && c ≤ '9' then some (c.toNat - '0'.toNat)
  else if 'a' ≤ c && c ≤ 'f' then some (c.toNat - 'a'.toNat + 10)
  else if 'A' ≤ c && c ≤ 'F' then some (c.toNat - 'A'.toNat + 10)
  else none

/-- The bytes of ASCII text with each `%XX` decoded. -/
def percentBytes : List Char → List Nat
  | [] => []
  | '%' :: a :: b :: rest =>
    match hexValue? a, hexValue? b with
    | some high, some low => (high * 16 + low) :: percentBytes rest
    | _, _ => '%'.toNat :: percentBytes (a :: b :: rest)
  | c :: rest => c.toNat :: percentBytes rest

/-- Decodes a percent-encoded text, gathering each run of ASCII characters. -/
def unquoteFrom (pending : List Char) : List Char → List Char
  | [] => decodeUtf8 (percentBytes pending.reverse)
  | c :: rest =>
    if c.toNat < 0x80 then unquoteFrom (c :: pending) rest
    else decodeUtf8 (percentBytes pending.reverse) ++ c :: unquoteFrom [] rest

/-- A percent-encoded text decoded. -/
def unquote (text : String) : String :=
  if text.toList.contains '%' then String.ofList (unquoteFrom [] text.toList) else text

end Listening.Web
