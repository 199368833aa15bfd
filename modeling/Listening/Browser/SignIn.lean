import Listening.World.Script
import Listening.Media.Studio

/-!
# Signing in through a browser

A browser opens the sign-in page and fills in the form: the address field, then the password
field, then the enter key, which sends the form. It then waits five seconds and looks at the
page title. A title without `Sign in` means the page was left and the attempts stop; otherwise
another attempt follows, up to the limit. Afterwards the page's address, title and the first
500 characters of its source are printed, every selector of a list of likely error notices is
tried, and a screenshot is saved. The browser is closed in every case, also after a failure.

The site is scripted: its titles and addresses by the number of times the form was sent (the
last one given stays), its source, the fields whose lookup fails, and the notices it shows.
-/

namespace Listening.Browser

open Listening.World Listening.World.Scripted

/-- What a page shows, by the number of times the form was sent. -/
inductive Showing where
  /-- Always the same text. -/
  | always (text : String)
  /-- The first text before the form is sent and after the first sending, each later one after
  one more sending; the last text stays. A script of no texts is the page's standing text. -/
  | bySending (first : String) (later : List String)

/-- The text shown after the form was sent a number of times. -/
def Showing.after : Showing → Nat → String
  | .always text, _ => text
  | .bySending first later, sent => (first :: later).getD (min (sent - 1) later.length) first

/-- A scripted site. -/
structure Site where
  titles : Showing := .always "Brandwatch | Sign in"
  addresses : Showing := .always "https://login.brandwatch.com/login"
  source : String := "<html></html>"
  /-- Fields whose lookup fails, with the browser's message. -/
  broken : List (String × String) := []
  /-- Notices the page shows, by selector, with their text. -/
  notices : List (String × String) := []

/-- A browser window on a site: the site and how many times the form was sent. -/
structure Window where
  site : Site := {}
  sent : Nat := 0

/-- A script driving a browser. -/
abbrev Visit := Scripted Window

/-- The key that sends a form. -/
def enterKey : Char := '\uE007'

/-- The page that signs in. -/
def signInPage : String :=
  "https://login.brandwatch.com/login?client_id=my-brandwatch-prod-client" ++
  "&interactionUid=4KnWs-oUTHM19K0nJrES4&product_code=mybrandwatch"

/-- Selectors of notices that may explain a failed sign-in, tried in order. -/
def noticeSelectors : List String :=
  ["//div[contains(text(), 'error')]", "//span[contains(text(), 'error')]",
   "//div[contains(text(), 'invalid')]", "//span[contains(text(), 'invalid')]",
   "//div[@class='ax-form__error']"]

/-- Where the screenshot goes. -/
def screenshotPath : String := "login_debug_retry.png"

namespace Visit

/-- Reads what the site shows now. -/
def showing (view : Site → Showing) : Visit String := do
  let browser ← world
  pure ((view browser.site).after browser.sent)

/-- Finds a form field by name; a broken field fails with the browser's message. -/
def findField (name : String) : Visit Unit := do
  call "find_element" [.str "name", .str name]
  if let some message := Media.lookup (← world).site.broken name then
    raise .browserFailed ("Message: " ++ message ++ "\n")

/-- Types keys into a field; each enter key among them sends the form. -/
def typeInto (name : String) (keys : Datum) : Visit Unit := do
  call "send_keys" [.str name, keys]
  let sending := match keys with
    | .str text => text.toList.count enterKey
    | _ => 0
  alter fun browser => { browser with sent := browser.sent + sending }

/-- Fills a field afresh: finds it, clears it and types into it. -/
def fill (name : String) (keys : Datum) : Visit Unit := do
  findField name
  call "clear" [.str name]
  typeInto name keys

/-- Looks for a notice by selector; its text, if the page shows it. -/
def notice (selector : String) : Visit (Option String) := do
  call "find_element" [.str "xpath", .str selector]
  return Media.lookup (← world).site.notices selector

end Visit

open Visit

/-- One attempt: fills in and sends the form, waits, and tells whether the page was left. -/
def attempt (email password : Datum) : Visit Bool := do
  fill "email" email
  fill "password" password
  typeInto "password" (.str enterKey.toString)
  call "sleep" [.int 5]
  let _ ← showing (·.addresses)
  let title ← showing (·.titles)
  return !Media.holdsText title "Sign in"

/-- Attempts numbered from `number` up to `limit`, stopping once the page is left. -/
def attemptsFrom (email password : Datum) (limit : Nat) : Nat → List Nat → Visit Unit
  | _, [] => pure ()
  | number, _ :: later => do
    say ("\n=== Attempt #" ++ toString number ++ " to log in ===")
    if ← attempt email password then
      say "We appear to have left the sign-in page. Stopping retries."
    else
      say "Still on the sign-in page; either credentials are incorrect or SSO is required."
      if number < limit then say "Retrying login..." else say "Max retries reached. Will stop now."
      attemptsFrom email password limit (number + 1) later

/-- The report after the attempts: address, title, the start of the source, the notices found,
and a screenshot. -/
def report : Visit Unit := do
  say "\n=== DEBUG INFO AFTER LOGIN ATTEMPTS ==="
  say ("Current URL: " ++ (← showing (·.addresses)))
  say ("Page Title: " ++ (← showing (·.titles)))
  say "\nPage Source (first 500 chars):"
  say (String.ofList ((← world).site.source.toList.take 500))
  say "... [truncated] ..."
  let mut found := false
  for selector in noticeSelectors do
    if let some text ← notice selector then
      say ("\n**Possible error element found via " ++ selector ++ ":**\n" ++ text)
      found := true
  if !found then say "\nNo obvious error messages found with the guessed selectors."
  call "save_screenshot" [.str screenshotPath]
  say ("\nSaved screenshot to: " ++ screenshotPath)
  call "sleep" [.int 3]

/-- The number of attempts a limit allows: a whole number (a truth value counts as `0` or `1`);
a float, and a value that cannot be added to a number, is refused. -/
def attemptLimit : Datum → Visit Int
  | .int limit => pure limit
  | .bool flag => pure (if flag then 1 else 0)
  | .float _ => raise .wrongShape "'float' object cannot be interpreted as an integer"
  | other@(.str _) | other@(.list _) =>
    raise .wrongShape ("can only concatenate " ++ other.shapeName ++ " (not \"int\") to " ++ other.shapeName)
  | other => raise .wrongShape ("unsupported operand type(s) for +: '" ++ other.shapeName ++ "' and 'int'")

/-- What a sign-in does with the browser open: opens the sign-in page, makes up to `limit`
attempts and reports. -/
def signInSteps (email password limit : Datum) : Visit Unit := do
  call "get" [.str signInPage]
  let limit ← attemptLimit limit
  attemptsFrom email password limit.toNat 1 (List.range limit.toNat)
  report

/-- Signs in with up to `limit` attempts, reports, and closes the browser in every case. -/
def signIn (email password limit : Datum) : Visit Unit := do
  call "Chrome"
  call "maximize_window"
  let outcome ← tryCatch (do signInSteps email password limit; pure none) fun stop => pure (some stop)
  call "quit"
  if let some stop := outcome then throw stop

/-- The number of attempts unless another is given. -/
def defaultAttempts : Datum := .int 3

/-- The standing sign-in: empty address and password, three attempts. -/
def standingSignIn : Visit Unit :=
  signIn (.str "") (.str "") defaultAttempts

end Listening.Browser
