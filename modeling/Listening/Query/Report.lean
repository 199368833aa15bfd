import Listening.Query.Parse
import Listening.Query.Normalize
import Listening.Query.Graph
import Listening.Query.Summary

/-!
# The query report

The report that the query tools print for a query text. The plain tool parses the text (a
failure prints its message), writes the normal form of the tree (`None` without one) and the
summary of its terms. The braced tool parses in its dialect and, when a tree was read, normalizes
it in passes and prints the summary of its terms.

Both tools report on a fixed sample query, a single line break, which does not parse.
-/

namespace Listening.Query

/-- The sample query of the tools. -/
def sampleQuery : String := "\n"

/-- What parsing prints: nothing, or the failure message on a line. -/
def parseReport (result : Except ReadFailure Node) : String :=
  match result with
  | .ok _ => ""
  | .error failure => "Parse Error: " ++ failure.message ++ "\n"

/-- Why a report stops early. -/
inductive ReportFault where
  | step (fault : StepFault)
  | summary (fault : SummaryFault)

/-- The message of a report fault. -/
def ReportFault.message : ReportFault → String
  | .step fault => fault.message
  | .summary fault => fault.message

/-- The summary section of a report for a tree. -/
def summaryReport (order : ListingOrder) (tree : Option Node) : Except ReportFault String :=
  let classes := (tree.map Node.classify).getD {}
  match classes.summary order with
  | .ok text => .ok ("\n=== SUMMARY ===\n" ++ text.getD "")
  | .error fault => .error (.summary fault)

/-- The plain tool's report on a query text. -/
def plainReport (text : String) : Except ReportFault String :=
  let parsed := parse .plain text
  let tree := parsed.toOption.map normalize
  let shown := (tree.map Node.describe).getD "None"
  return parseReport parsed ++ "\n=== REWRITTEN AST ===\n" ++ shown ++ "\n" ++
    (← summaryReport .codePoint tree)

/-- The braced tool's report on a query text. -/
def bracedReport (text : String) : Except ReportFault String :=
  let parsed := parse .bracedLower text
  match parsed with
  | .error _ => .ok (parseReport parsed)
  | .ok tree =>
    match normalizeInPasses tree 1000 with
    | .error fault => .error (.step fault)
    | .ok settled => return parseReport parsed ++ (← summaryReport .lowerCase (some settled))

end Listening.Query
