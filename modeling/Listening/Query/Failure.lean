import Listening.Text.European
import Listening.Text.Quoted

/-!
# Read failures

A failed read names what it expected, where it stopped and what it found there. The position
counts characters of the text as read: comments removed and tabs expanded. What was found is
`end of text` at the end, else the literal form of the run of up to sixteen European letters
and digits that starts there, or of the single character there when no such run starts. Lines
count line feeds; the column counts from the last line feed before the position.
-/

namespace Listening.Query

open Listening.Text

/-- What a read expected where it stopped. -/
inductive Expectation where
  /-- A query (its first term) could not be read. -/
  | term
  /-- A query was read, but text follows it. -/
  | endOfText
deriving DecidableEq, Repr

/-- The words that name an expectation. -/
def Expectation.text : Expectation → String
  | .term => "Expected 'OR' term"
  | .endOfText => "Expected end of text"

/-- A failed read: what was expected, at which position of which text. -/
structure ReadFailure where
  expected : Expectation
  position : Nat
  source : List Char

/-- Collapses each pair of backslashes into one, scanning from the left. -/
def collapseBackslashes : List Char → List Char
  | '\\' :: '\\' :: rest => '\\' :: collapseBackslashes rest
  | c :: rest => c :: collapseBackslashes rest
  | [] => []

namespace ReadFailure

/-- What stands at the failure position, as shown in the message; empty for an empty text. -/
def found (failure : ReadFailure) : String :=
  if failure.source.isEmpty then ""
  else
    match failure.source.drop failure.position with
    | [] => "end of text"
    | c :: more =>
      let run := ((c :: more).takeWhile isEuropeanAlnum).take 16
      let shown := if run.isEmpty then [c] else run
      String.ofList (collapseBackslashes (literalChars shown))

/-- The line of the failure position, counting from one. -/
def line (failure : ReadFailure) : Nat :=
  ((failure.source.take failure.position).filter (· == '\n')).length + 1

/-- The column of the failure position, counting from one after the last line feed. -/
def column (failure : ReadFailure) : Nat :=
  let before := failure.source.take failure.position
  match (before.reverse.takeWhile (· != '\n')).length, before.contains '\n' with
  | sinceBreak, true => sinceBreak + 1
  | _, false => failure.position + 1

/-- The message of a failure. -/
def message (failure : ReadFailure) : String :=
  let found := failure.found
  failure.expected.text ++ (if found.isEmpty then "" else ", found " ++ found) ++
    "  (at char " ++ toString failure.position ++ "), (line:" ++ toString failure.line ++
    ", col:" ++ toString failure.column ++ ")"

end ReadFailure

end Listening.Query
