import Listening.Web.Markup.Tag
import Listening.Web.Percent

/-!
# Markup as a stream of events

A document is read from left to right into events: runs of text, start and end tags, comments,
document type declarations, processing instructions, marked sections, and character
references by number or by name. The content of `script` and `style` is raw text up to its
closing tag; the content of `textarea` and `title` is text too, but its character references
are still read.

Reading goes in two passes. The first stops at a construct that the rest of the document does
not finish (a tag without its `>`, a comment without its end, a reference at the very end); the
second reads on from there knowing that the document ends, and then gives whatever is left as
text. At the end, a cut-off start tag or end tag is dropped, and a cut-off comment,
declaration or instruction is closed where the document ends. A `&#` that starts no numeric
reference stops a pass: when a `;` follows somewhere, the two characters are text first.
-/

namespace Listening.Web

/-- What a reader of markup meets, in order. -/
inductive Event where
  | text (data : String)
  | start (name : String) (attributes : List (String × Option String)) (selfClosing : Bool)
  | close (name : String)
  | comment (data : String)
  | doctype (data : String)
  | instruction (data : String)
  | section (data : String)
  /-- A character reference by number: decimal digits, or `x` and hex digits. -/
  | number (digits : String)
  /-- A character reference by name. -/
  | named (name : String)
deriving Repr

/-- Elements whose content is raw text. -/
def rawTextElements : List String := ["script", "style"]

/-- Elements whose content is text in which character references are still read. -/
def escapableTextElements : List String := ["textarea", "title"]

/-- What one step of reading does: go on after some characters with the raw-text element now
open, or stop after some characters. -/
inductive Move where
  | advance (events : List Event) (used : Nat) (raw : Option String)
  | halt (events : List Event) (used : Nat)

/-- The position of the first occurrence of a piece, searching from a position on. -/
def findPiece (piece : List Char) (chars : List Char) (start : Nat) : Option Nat :=
  ((List.range (chars.length + 1)).filter (start ≤ ·)).find? fun k => piece.isPrefixOf (chars.drop k)

/-- The position of the first character that passes a test. -/
def findChar (test : Char → Bool) (chars : List Char) : Option Nat :=
  chars.findIdx? test

/-- A character in lower case, ASCII letters only. -/
def asciiLower (c : Char) : Char :=
  if 'A' ≤ c && c ≤ 'Z' then Char.ofNat (c.toNat + 32) else c

/-- Whether a list starts with `</` and an element name (ASCII letters in any case) followed by
a space, `/` or `>`. -/
def closesRaw (name : List Char) (chars : List Char) : Bool :=
  match chars with
  | '<' :: '/' :: rest =>
    (rest.take name.length).map asciiLower == name &&
      match rest.drop name.length with
      | c :: _ => isMarkupSpace c || c == '/' || c == '>'
      | [] => false
  | _ => false

/-- Where a run of raw text inside an element stops: at the first closing tag of the element,
or, when references are read inside it, at the first `&` if that comes earlier. -/
def rawStop? (name : String) (chars : List Char) : Option Nat :=
  let escapable := escapableTextElements.contains name
  (List.range chars.length).find? fun k =>
    closesRaw name.toList (chars.drop k) || (escapable && chars[k]? == some '&')

/-- A numeric reference after `&#`: its digits and whether `;` ends it. It needs a character
after the digits that is not a hex digit. -/
def numberAt (chars : List Char) : Option (List Char × Bool) :=
  let ending (digits : List Char) (after : List Char) : Option (List Char × Bool) :=
    match after with
    | c :: _ => if (hexValue? c).isSome then none else some (digits, c == ';')
    | [] => none
  match chars with
  | x :: rest =>
    if x == 'x' || x == 'X' then
      let hex := rest.takeWhile fun c => (hexValue? c).isSome
      if hex.isEmpty then none else ending (x :: hex) (rest.drop hex.length)
    else if '0' ≤ x && x ≤ '9' then
      let decimal := chars.takeWhile fun c => '0' ≤ c && c ≤ '9'
      ending decimal (chars.drop decimal.length)
    else none
  | [] => none

/-- Characters that go on in a reference name. -/
def inReferenceName (c : Char) : Bool :=
  isAsciiLetter c || ('0' ≤ c && c ≤ '9') || c == '-' || c == '.'

/-- A named reference after `&` (a letter first): its name and how many characters it takes.
It needs a character after the name that is not a letter or digit; at the very end of the
document the name is cut at its last `-` or `.`. -/
def namedAt (chars : List Char) : Option (List Char × Nat) :=
  let run := chars.takeWhile inReferenceName
  match chars.drop run.length with
  | c :: _ => some (run, run.length + (if c == ';' then 1 else 0))
  | [] =>
    match ((List.range run.length).filter fun k => 0 < k && (run[k]? == some '-' || run[k]? == some '.')).getLast? with
    | some cut => some (run.take cut, cut)
    | none => none

/-- What a construct that the document does not finish gives at its end. -/
def unfinishedAtEnd (chars : List Char) : List Event :=
  let text (from_ : Nat) : String := String.ofList (chars.drop from_)
  match chars with
  | '<' :: c :: _ =>
    if isAsciiLetter c then []
    else if c == '/' then
      match chars.drop 2 with
      | [] => [.text "</"]
      | d :: _ => if isAsciiLetter d then [] else [.comment (text 2)]
    else if ['<', '!', '-', '-'].isPrefixOf chars then
      let body := chars.drop 4
      let cut := if ['-', '-', '!'].isSuffixOf body then 3
        else if ['-', '-'].isSuffixOf body then 2
        else if ['-'].isSuffixOf body then 1 else 0
      [.comment (String.ofList (body.take (body.length - cut)))]
    else if "<![CDATA[".toList.isPrefixOf chars then [.section (text 3)]
    else if (chars.take 9).map asciiLower == "<!doctype".toList then [.doctype (text 2)]
    else if c == '!' then [.comment (text 2)]
    else if c == '?' then [.instruction (text 2)]
    else []
  | _ => []

/-- A construct that the document does not finish: the first pass stops before it, the second
gives what it has and ends. -/
def unfinished (final : Bool) (raw : Option String) (chars : List Char) : Move :=
  if final then .advance (unfinishedAtEnd chars) chars.length raw else .halt [] 0

/-- A construct starting at `<`. -/
def markupStep (final : Bool) (raw : Option String) (chars : List Char) : Move :=
  let text (length : Nat) : Event := .text (String.ofList (chars.take length))
  let slice (start stop : Nat) : String := String.ofList ((chars.take stop).drop start)
  match chars with
  | '<' :: '/' :: after =>
    if !(after.contains '>') then unfinished final raw chars
    else match after with
      | c :: _ =>
        if isAsciiLetter c then
          let (length, complete) := measureTag after
          if complete then
            let name := Text.lower (String.ofList (after.take (tagNameLength after)))
            .advance [.close name] (2 + length) none
          else unfinished final raw chars
        else if c == '>' then .advance [] 3 raw
        else match findChar (· == '>') after with
          | some pos => .advance [.comment (String.ofList (after.take pos))] (pos + 3) raw
          | none => unfinished final raw chars
      | [] => unfinished final raw chars
  | '<' :: c :: after =>
    if isAsciiLetter c then
      let (length, complete) := measureTag (c :: after)
      if complete then
        match readStartTag (c :: after) length with
        | .tag name attributes selfClosing =>
          let textual := rawTextElements.contains name || escapableTextElements.contains name
          let raw := if !selfClosing && textual then some name else raw
          .advance [.start name attributes selfClosing] (1 + length) raw
        | .text => .advance [text (1 + length)] (1 + length) raw
      else unfinished final raw chars
    else if ['<', '!', '-', '-'].isPrefixOf chars then
      match findPiece ['-', '-', '>'] chars 4, findPiece ['-', '-', '!', '>'] chars 4 with
      | some stop, some other =>
        if other < stop then .advance [.comment (slice 4 other)] (other + 4) raw
        else .advance [.comment (slice 4 stop)] (stop + 3) raw
      | some stop, none => .advance [.comment (slice 4 stop)] (stop + 3) raw
      | none, some other => .advance [.comment (slice 4 other)] (other + 4) raw
      | none, none =>
        match chars.drop 4 with
        | '>' :: _ => .advance [.comment ""] 5 raw
        | '-' :: '>' :: _ => .advance [.comment ""] 6 raw
        | _ => unfinished final raw chars
    else if c == '?' then
      match findPiece ['>'] chars 2 with
      | some stop => .advance [.instruction (slice 2 stop)] (stop + 1) raw
      | none => unfinished final raw chars
    else if c == '!' then
      if "<![CDATA[".toList.isPrefixOf chars then
        match findPiece [']', ']', '>'] chars 9 with
        | some stop => .advance [.section (slice 3 stop)] (stop + 3) raw
        | none => unfinished final raw chars
      else if (chars.take 9).map asciiLower == "<!doctype".toList then
        match findPiece ['>'] chars 9 with
        | some stop => .advance [.doctype (slice 2 stop)] (stop + 1) raw
        | none => unfinished final raw chars
      else
        match findPiece ['>'] chars 2 with
        | some stop => .advance [.comment (slice 2 stop)] (stop + 1) raw
        | none => unfinished final raw chars
    else .advance [.text "<"] 1 raw
  | _ => if final then .advance [.text "<"] 1 raw else .halt [] 0

/-- A reference starting at `&`. -/
def referenceStep (final : Bool) (raw : Option String) (chars : List Char) : Move :=
  match chars with
  | '&' :: '#' :: after =>
    match numberAt after with
    | some (digits, closed) =>
      .advance [.number (String.ofList digits)] (2 + digits.length + (if closed then 1 else 0)) raw
    | none => if chars.contains ';' then .halt [.text "&#"] 2 else .halt [] 0
  | '&' :: c :: after =>
    if isAsciiLetter c then
      match namedAt (c :: after) with
      | some (name, used) => .advance [.named (String.ofList name)] (1 + used) raw
      | none => if final && after.isEmpty then .halt [] 1 else .halt [] 0
    else .advance [.text "&"] 1 raw
  | _ => .halt [.text "&"] 1

/-- One step of reading. -/
def readStep (final : Bool) (raw : Option String) (chars : List Char) : Move :=
  match raw with
  | some name =>
    match rawStop? name chars with
    | none => .halt [] 0
    | some 0 => if chars.head? == some '&' then referenceStep final raw chars else markupStep final raw chars
    | some stop => .advance [.text (String.ofList (chars.take stop))] stop raw
  | none =>
    match chars with
    | '<' :: _ => markupStep final raw chars
    | '&' :: _ => referenceStep final raw chars
    | _ =>
      let stop := (findChar (fun c => c == '<' || c == '&') chars).getD chars.length
      .advance [.text (String.ofList (chars.take stop))] stop raw

/-- One pass of reading: the events, what is left where the pass stopped, and the raw-text
element open there. -/
def readPass (final : Bool) (raw : Option String) (chars : List Char) :
    List Event × List Char × Option String :=
  match chars with
  | [] => ([], [], raw)
  | c :: rest =>
    match readStep final raw (c :: rest) with
    | .advance events used next =>
      if _none : used = 0 then (events, c :: rest, next)
      else
        let (more, left, last) := readPass final next ((c :: rest).drop used)
        (events ++ more, left, last)
    | .halt events used => (events, (c :: rest).drop used, raw)
termination_by chars.length
decreasing_by
  simp only [List.length_drop, List.length_cons]
  omega

/-- The events of a document: a first pass, a second pass that knows the end, and what is left
as text. -/
def Event.ofDocument (document : String) : List Event :=
  let (first, left, raw) := readPass false none document.toList
  let (second, rest, _) := readPass true raw left
  first ++ second ++ (if rest.isEmpty then [] else [.text (String.ofList rest)])

end Listening.Web
