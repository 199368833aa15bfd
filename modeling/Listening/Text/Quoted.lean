import Listening.Text.Printable

/-!
# Quoted literals

The literal form of a text: the text between quotes, with the quote, the backslash and the
characters that cannot be printed spelled as escapes. The quote is the apostrophe, unless the
text holds an apostrophe and no double quote; then it is the double quote. So reading the
literal back gives the text.
-/

namespace Listening.Text

/-- The hexadecimal digits of a number, lower-case, padded with zeros to `width` places. -/
def hexDigits (width value : Nat) : List Char :=
  let digits := Nat.toDigits 16 value
  List.replicate (width - digits.length) '0' ++ digits

/-- The spelling of one character inside a literal closed by `quote`. -/
def escapeChar (quote c : Char) : List Char :=
  if c = quote || c = '\\' then ['\\', c]
  else if c = '\t' then ['\\', 't']
  else if c = '\n' then ['\\', 'n']
  else if c = '\r' then ['\\', 'r']
  else if c.toNat < 0x20 || c.toNat = 0x7f then '\\' :: 'x' :: hexDigits 2 c.toNat
  else if c.toNat < 0x7f || isPrintable c then [c]
  else if c.toNat ≤ 0xff then '\\' :: 'x' :: hexDigits 2 c.toNat
  else if c.toNat ≤ 0xffff then '\\' :: 'u' :: hexDigits 4 c.toNat
  else '\\' :: 'U' :: hexDigits 8 c.toNat

/-- The quote that closes the literal of a text. -/
def quoteFor (chars : List Char) : Char :=
  if chars.contains '\'' && !chars.contains '"' then '"' else '\''

/-- The literal form of a list of characters. -/
def literalChars (chars : List Char) : List Char :=
  let quote := quoteFor chars
  quote :: (chars.flatMap (escapeChar quote) ++ [quote])

/-- The literal form of a text. -/
def literal (text : String) : String :=
  String.ofList (literalChars text.toList)

end Listening.Text
