import Listening.Query.Report

/-!
# The query tools on the command line

The plain tool, or the braced one after `--braced`, reports on a query given as an argument, or
on the tools' sample query when none is given. A report that stops early writes its message to
the error stream and ends with status 1.
-/

open Listening.Query

/-- Prints the report of the chosen query tool. -/
def main (args : List String) : IO UInt32 := do
  let braced := args.contains "--braced"
  let text := ((args.filter (· != "--braced")).head?).getD sampleQuery
  match (if braced then bracedReport text else plainReport text) with
  | .ok report =>
    IO.print report
    pure 0
  | .error fault =>
    IO.eprintln fault.message
    pure 1
