import Listening.Text.Blank

/-!
# Splitting text into pieces

A text splits at punctuation marks, at double hyphens and at blanks. The marks and double
hyphens are pieces of their own; blanks only separate. The first generation of the tokenizer
splits at `, . ? _ ! " ( ) '`; the second also at `:` and `;`.

Joining pieces puts one space between them and then removes every run of blanks that stands
right before a closing mark: `, . ? ! " ( ) '`, and for the second generation `:` and `;`
(the underscore is no closing mark).
-/

namespace Listening.Tokenizer

open Listening.Text

/-- The two generations of the tokenizer. -/
inductive Generation where
  | first
  | second
deriving DecidableEq, Repr

/-- The marks at which a generation splits. -/
def Generation.splitMarks : Generation → List Char
  | .first => [',', '.', '?', '_', '!', '"', '(', ')', '\'']
  | .second => [',', '.', ':', ';', '?', '_', '!', '"', '(', ')', '\'']

/-- The marks before which joining removes blanks. -/
def Generation.closingMarks : Generation → List Char
  | .first => [',', '.', '?', '!', '"', '(', ')', '\'']
  | .second => [',', '.', ':', ';', '?', '!', '"', '(', ')', '\'']

/-- Splits characters into pieces, `word` holding the characters of the piece being read, in
reverse. -/
def splitFrom (marks : List Char) (word : List Char) : List Char → List String
  | [] => close word
  | '-' :: '-' :: rest => close word ++ ["--"] ++ splitFrom marks [] rest
  | c :: rest =>
    if marks.contains c then close word ++ [c.toString] ++ splitFrom marks [] rest
    else if isBlank c then close word ++ splitFrom marks [] rest
    else splitFrom marks (c :: word) rest
where
  /-- The piece read so far, if it is not empty. -/
  close (word : List Char) : List String :=
    if word.isEmpty then [] else [String.ofList word.reverse]

/-- The pieces of a text. -/
def Generation.split (generation : Generation) (text : String) : List String :=
  splitFrom generation.splitMarks [] text.toList

/-- Removes every run of blanks that stands right before one of the marks; `pending` holds the
blanks read since the last other character, in reverse. -/
def dropBlanksFrom (marks : List Char) (pending : List Char) : List Char → List Char
  | [] => pending.reverse
  | c :: rest =>
    if isBlank c then dropBlanksFrom marks (c :: pending) rest
    else if marks.contains c then c :: dropBlanksFrom marks [] rest
    else pending.reverse ++ c :: dropBlanksFrom marks [] rest

/-- Joins pieces with single spaces and removes the blanks before closing marks. -/
def Generation.join (generation : Generation) (pieces : List String) : String :=
  String.ofList (dropBlanksFrom generation.closingMarks [] (" ".intercalate pieces).toList)

end Listening.Tokenizer
