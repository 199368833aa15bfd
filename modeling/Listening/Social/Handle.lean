import Listening.Web.Markup.Node
import Listening.World.Script
import Listening.Media.Studio

/-!
# Finding a person's handle

A person's handle on the short-message service is looked up on a search page: the page for the
percent-encoded name is fetched and its links (`a` elements with an `href`) are printed. The
first link that, percent-decoded, points at the service (it holds `twitter.com/`) and at no
single message (it holds no `/status/`) and names an account right after `twitter.com/` gives
the handle: the characters up to the next `/`, `?` or `&`. The profile is the service's address
followed by the handle. A page that cannot be fetched is reported and gives nothing.

The pages are scripted, together with the files a run reads and writes.
-/

namespace Listening.Social

open Listening.World Listening.World.Scripted Listening.Web

/-- A scripted page: its markup, or the error that fetching it gives. -/
inductive Page where
  | body (markup : String)
  | unreachable (message : String)

/-- The world of an errand on the web: the pages, the text of the file to read (if it is
there), and the files written so far with their text. -/
structure Desk where
  pages : List (String × Page) := []
  input : Option String := none
  written : List (String × String) := []

/-- A script over a desk. -/
abbrev Errand := Scripted Desk

/-- The search page for a query. -/
def searchPage (query : String) : String :=
  "https://html.duckduckgo.com/html/?q=" ++ query

/-- The headers sent with every request. -/
def requestHeaders : Datum :=
  .record [("User-Agent", .str "Mozilla/5.0")]

/-- The address of a profile on the service. -/
def profileAddress (handle : String) : String :=
  "https://twitter.com/" ++ handle

/-- The first account named right after `twitter.com/` in a link. -/
def accountIn : List Char → Option String
  | [] => none
  | c :: rest =>
    if "twitter.com/".toList.isPrefixOf (c :: rest) then
      let name := ((c :: rest).drop 12).takeWhile fun ch => ch != '/' && ch != '?' && ch != '&'
      if name.isEmpty then accountIn rest else some (String.ofList name)
    else accountIn rest

/-- The handle a link gives, if it points at an account of the service. -/
def handleOf? (link : String) : Option String :=
  let decoded := unquote link
  if Media.holdsText decoded "twitter.com/" && !Media.holdsText decoded "/status/" then
    accountIn decoded.toList
  else none

/-- The links of a page, printed as a list of elements. -/
def linksText (links : List Node) : String :=
  "[" ++ ", ".intercalate (links.map (·.render "")) ++ "]"

/-- Fetches a page. -/
def fetch (address : String) : Errand String := do
  call "get" [.str address, requestHeaders]
  match Media.lookup (← world).pages address with
  | some (.body markup) => pure markup
  | some (.unreachable message) => raise .pageUnreachable message
  | none => pure ""

/-- Looks up the handle and profile of a person by name. -/
def findHandle (name : Datum) : Errand (Option (String × String)) := do
  let person ← match name with
    | .str person => pure person
    | _ => raise .wrongShape "quote_from_bytes() expected bytes"
  tryCatch (do
      let page ← fetch (searchPage (quote person))
      let links := Node.elementsWithin "a" "href" (Node.parse page)
      say (if links.isEmpty then "no links" else linksText links)
      let found := links.findSome? fun link => (link.attribute? "href").bind handleOf?
      return found.map fun handle => (handle, profileAddress handle))
    fun
    | .raised _ message => do
      say ("An error occurred while processing '" ++ person ++ "': " ++ message)
      return none
    | stop => throw stop

end Listening.Social
