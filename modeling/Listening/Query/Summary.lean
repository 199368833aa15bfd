import Listening.Query.Classify
import Listening.Text.Case

/-!
# Summaries of classified terms

A summary has three sections: the standalone terms, the excluded terms, and the terms that must
appear with others. Each lists ` - term` lines, or ` (none)`, and ends with an empty line. The
last section drops every pair with a standalone member, groups the rest by their first member
and writes ` - a must appear with b`, or ` - a must appear with (b1, b2, ...)` for several
partners. Repetitions count once. A missing value is written `None`.

Each collection is a set, walked in some order: here, the order in which its members are listed,
first occurrences counting. The groups of pairs are walked in the order their first members first
appear, and the partners of a group in the order their pairs appear (`summaryText`). Terms are
listed in one of two orders: by code point, or by their lower-case form, terms with the same
lower-case form keeping the order in which they were walked. Under the second order the text thus
depends on the walk when two distinct terms of one sorted list have the same lower-case form, and
nothing fixes the walk of a set. A summary is not written (`none`) when any two distinct terms of
the three collections have the same lower-case form, whichever collections they stand in.
-/

namespace Listening.Query

open Listening.Text

/-- The order in which a summary lists terms. -/
inductive ListingOrder where
  /-- By code point. -/
  | codePoint
  /-- By lower-case form. -/
  | lowerCase
deriving DecidableEq, Repr

/-- Why a summary cannot be written. -/
inductive SummaryFault where
  /-- A missing value and a text were to be ordered by code point. -/
  | mixedValues
  /-- A missing value was to be ordered by its lower-case form. -/
  | noLowerCase
deriving DecidableEq, Repr

/-- The message of a summary fault. -/
def SummaryFault.message : SummaryFault → String
  | .mixedValues => "'<' not supported between instances of 'NoneType' and 'str'"
  | .noLowerCase => "descriptor 'lower' for 'str' objects doesn't apply to a 'NoneType' object"

/-- The text of a value in a summary. -/
def shownValue (value : Option String) : String :=
  value.getD "None"

/-- The distinct values of a list in listing order; values that the order ranks alike keep the
order of the list. -/
def ListingOrder.sort (order : ListingOrder) (values : List (Option String)) :
    Except SummaryFault (List (Option String)) :=
  let unique := distinct values
  match order with
  | .codePoint =>
    if unique.contains none && unique.any Option.isSome then .error .mixedValues
    else .ok (unique.mergeSort fun a b => !valueLt b a)
  | .lowerCase =>
    if unique.contains none then .error .noLowerCase
    else .ok (unique.mergeSort fun a b => !(lower (shownValue b) < lower (shownValue a)))

/-- Whether two distinct texts among the values have the same lower-case form. -/
def caseClash (values : List (Option String)) : Bool :=
  let unique := distinct values
  unique.any fun a => unique.any fun b => a != b && lower (shownValue a) == lower (shownValue b)

/-- The lines of a section: its title, its items or ` (none)`, and an empty line. -/
def sectionLines (title : String) (items : List String) : List String :=
  title :: (if items.isEmpty then [" (none)"] else items.map (" - " ++ ·)) ++ [""]

/-- The pairs that a summary keeps, grouped by first member in listing order, each with its
partners in listing order. -/
def groupPairs (order : ListingOrder) (standalone : List (Option String))
    (pairs : List (Option String × Option String)) :
    Except SummaryFault (List (Option String × List (Option String))) := do
  let kept := pairs.filter fun (a, b) => !standalone.contains a && !standalone.contains b
  let firsts ← order.sort (kept.map (·.1))
  firsts.mapM fun a => do
    let partners ← order.sort ((kept.filter (·.1 == a)).map (·.2))
    return (a, partners)

/-- The line of one group of pairs. -/
def groupLine (group : Option String × List (Option String)) : String :=
  match group.2 with
  | [single] => " - " ++ shownValue group.1 ++ " must appear with " ++ shownValue single
  | partners =>
    " - " ++ shownValue group.1 ++ " must appear with (" ++
      ", ".intercalate (partners.map shownValue) ++ ")"

/-- The text of a summary whose standalone terms, excluded terms and groups of pairs are listed. -/
def printSummary (standalone excluded : List (Option String))
    (groups : List (Option String × List (Option String))) : String :=
  let lines :=
    sectionLines "Standalone Terms:" (standalone.map shownValue) ++
    sectionLines "Excluded Terms:" (excluded.map shownValue) ++
    ("Requires Another:" :: (if groups.isEmpty then [" (none)", ""] else groups.map groupLine ++ [""]))
  String.intercalate "\n" lines ++ "\n"

/-- The text printed for three collections of terms, each walked in the order it is listed. -/
def summaryText (order : ListingOrder) (standalone excluded : List (Option String))
    (pairs : List (Option String × Option String)) : Except SummaryFault String := do
  let shownStandalone ← order.sort standalone
  let shownExcluded ← order.sort excluded
  let groups ← groupPairs order standalone pairs
  return printSummary shownStandalone shownExcluded groups

/-- The summary of three collections of terms, or `none` when the order cannot be fixed. Sorted
by lower-case form, no summary is written as soon as two distinct terms anywhere in the three
collections have one lower-case form, even in two collections that are sorted apart: the check
looks at all terms at once, where the text depends on the walk only through a clash within one
sorted list. -/
def summarize (order : ListingOrder) (standalone excluded : List (Option String))
    (pairs : List (Option String × Option String)) : Except SummaryFault (Option String) := do
  let text ← summaryText order standalone excluded pairs
  let everything := standalone ++ excluded ++ pairs.flatMap fun (a, b) => [a, b]
  if order = .lowerCase && caseClash everything then return none
  return some text

/-- The summary of a classification. -/
def Classification.summary (order : ListingOrder) (c : Classification) :
    Except SummaryFault (Option String) :=
  summarize order c.standalone c.excluded c.pairs

end Listening.Query
