import Listening.Query.Comment
import Listening.Query.Failure
import Listening.Query.Read
import Listening.Text.Tabs

/-!
# Parsing a query text

Parsing removes the comments, expands tabs and reads one query that must take the whole text,
separators at the end apart. It fails with `Expected 'OR' term` where the query could not start,
and with `Expected end of text` where text follows a complete query.
-/

namespace Listening.Query

open Listening.Text

/-- The text that the reader sees: comments removed, tabs expanded. -/
def prepare (text : String) : List Char :=
  expandTabs (stripComments text.toList)

/-- Reads a whole prepared text as one query. -/
def readAll (dialect : Dialect) (source : List Char) : Except ReadFailure Node :=
  match readChain dialect .disj ⟨[], source⟩ with
  | .error position => .error ⟨.term, position, source⟩
  | .ok (node, ⟨after, _⟩) =>
    let tail := after.skipSeparators
    if tail.rest.isEmpty then .ok node
    else .error ⟨.endOfText, tail.position, source⟩

/-- Parses a query text in a dialect. -/
def parse (dialect : Dialect) (text : String) : Except ReadFailure Node :=
  readAll dialect (prepare text)

/-- Removes the comments of a query text. -/
def removeComments (text : String) : String :=
  String.ofList (stripComments text.toList)

end Listening.Query
