import Listening.Web.Entities
import Listening.Web.Percent

/-!
# Character references

Markup writes characters by reference: `&name;` by one of the named references of HTML,
`&#65;` or `&#x41;` by number. Two readings are used:

* in text, a named reference stands for its characters (written with or without `;`), an
  unknown name stays as written without its `;`, and a number below 256 is read in the western
  Windows code page (where it defines the code), any other by code point;
* in attribute values, a number is always resolved, while a name is resolved only when it is
  written exactly as listed (with `;`, or one of the older names without it) and no `=`
  follows.

A number beyond the code points, or naming a surrogate, stands for the replacement character.
-/

namespace Listening.Web

/-- The characters a named reference stands for, looked up by its name without `;`. -/
def namedText? (name : String) : Option String :=
  (namedReferences.find? (·.1 == name)).map (·.2)

/-- The character of a code point, or the replacement character when there is none. -/
def codePointText (code : Nat) : String :=
  if code ≥ 0xD800 && code ≤ 0xDFFF || code > 0x10FFFF then "\uFFFD"
  else (Char.ofNat code).toString

/-- The character a numeric reference in text stands for. -/
def textNumberText (code : Nat) : String :=
  if 0x80 ≤ code && code < 0xA0 then (Char.ofNat (westernControls.getD (code - 0x80) code)).toString
  else codePointText code

/-- The number a numeric reference names: decimal digits, or hex digits after `x` or `X`. -/
def referenceNumber (digits : List Char) : Nat :=
  match digits with
  | 'x' :: hex | 'X' :: hex => hex.foldl (fun acc c => acc * 16 + (hexValue? c).getD 0) 0
  | _ => digits.foldl (fun acc c => acc * 10 + (c.toNat - '0'.toNat)) 0

/-- The characters a numeric reference in an attribute value stands for: the western Windows
characters for `0x80` to `0x9F`, the replacement character for zero, nothing for a control
character or noncharacter. -/
def valueNumberText (code : Nat) : String :=
  if code = 0 then "\uFFFD"
  else if code = 0x0D then "\r"
  else if 0x80 ≤ code && code < 0xA0 then (Char.ofNat (westernControls.getD (code - 0x80) code)).toString
  else if code ≥ 0xD800 && code ≤ 0xDFFF || code > 0x10FFFF then "\uFFFD"
  else if forbiddenCodes.contains code then ""
  else (Char.ofNat code).toString

/-- Whether a character is an ASCII digit. -/
def isDigitChar (c : Char) : Bool :=
  '0' ≤ c && c ≤ '9'

/-- Whether a character is an ASCII letter or digit. -/
def isAsciiAlnum (c : Char) : Bool :=
  isDigitChar c || ('a' ≤ c && c ≤ 'z') || ('A' ≤ c && c ≤ 'Z')

/-- The digits of a numeric reference after `&#` and how many characters they take: hex digits
after `x` or `X`, else decimal digits. Nothing when there are no digits. -/
def referenceDigits (chars : List Char) : Option (List Char × Nat) :=
  match chars with
  | x :: more =>
    if x == 'x' || x == 'X' then
      let hex := more.takeWhile fun c => (hexValue? c).isSome
      if hex.isEmpty then none else some (x :: hex, 1 + hex.length)
    else
      let decimal := chars.takeWhile isDigitChar
      if decimal.isEmpty then none else some (decimal, decimal.length)
  | [] => none

/-- How many characters a mark takes at the start of a list: one when it is there. -/
def markLength (mark : Char) (chars : List Char) : Nat :=
  if chars.head? == some mark then 1 else 0

/-- Resolves the references of an attribute value, the rest of the value kept. -/
def resolveValue (chars : List Char) : List Char :=
  match chars with
  | [] => []
  | '&' :: '#' :: rest =>
    match referenceDigits rest with
    | some (digits, used) =>
      (valueNumberText (referenceNumber digits)).toList ++
        resolveValue (rest.drop (used + markLength ';' (rest.drop used)))
    | none => '&' :: resolveValue ('#' :: rest)
  | '&' :: c :: rest =>
    if c.isAlpha && c.toNat < 0x80 then
      let taken := (rest.takeWhile isAsciiAlnum).length
      let written := String.ofList (c :: rest.take taken)
      let resolved := match (rest.drop taken).head? with
        | some ';' => namedText? written
        | some '=' => none
        | _ => if bareNames.contains written then namedText? written else none
      match resolved with
      | some text =>
        text.toList ++ resolveValue (rest.drop (taken + markLength ';' (rest.drop taken)))
      | none => '&' :: c :: rest.take taken ++ resolveValue (rest.drop taken)
    else '&' :: resolveValue (c :: rest)
  | c :: rest => c :: resolveValue rest
termination_by chars.length
decreasing_by
  all_goals simp only [List.length_cons, List.length_drop]
  all_goals omega

/-- An attribute value with its references resolved. -/
def resolveAttribute (value : String) : String :=
  String.ofList (resolveValue value.toList)

end Listening.Web
