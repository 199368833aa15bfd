import Listening.Web.Markup.Event
import Listening.Web.Markup.Reference
import Listening.Text.Blank

/-!
# Documents as trees

Events build a tree. A start tag opens an element inside the innermost open one; an end tag
closes the innermost open element of its name together with everything opened inside it, and
is ignored when no element of that name is open. Void elements (`br`, `img`, …) close at once;
a later end tag of the same name is then ignored once. A self-closing tag `<x/>` opens and
closes its element.

Text between other events is gathered into one string; a string of ASCII white space only
becomes a single line feed (if it has one) or a single space, except inside `pre` and
`textarea`. Comments and the like are kept as strings of their own kind. Attribute values have
their references resolved; a repeated attribute keeps its first place and its last value;
`class` and a few other attributes hold lists of words.

Printed back, text has `&`, `<` and `>` escaped (except inside `script` and `style`),
attributes come in name order, each value in double quotes (single quotes when it holds a
double quote but no single quote, else `&quot;` for its double quotes), and a void element with
nothing inside is written `<name/>`.
-/

namespace Listening.Web

/-- The value of an attribute: a text, or a list of words. -/
inductive AttributeValue where
  | text (value : String)
  | words (values : List String)

/-- The text of an attribute value; words are joined by single spaces. -/
def AttributeValue.joined : AttributeValue → String
  | text value => value
  | words values => " ".intercalate values

/-- The parts of a document. -/
inductive Node where
  | text (value : String)
  | comment (value : String)
  | doctype (value : String)
  | instruction (value : String)
  | section (value : String)
  | element (name : String) (attributes : List (String × AttributeValue)) (children : List Node)

/-- Elements that hold nothing and close at once. -/
def voidElements : List String :=
  ["area", "base", "br", "col", "embed", "hr", "img", "input", "keygen", "link", "menuitem",
   "meta", "param", "source", "track", "wbr", "basefont", "bgsound", "command", "frame",
   "image", "isindex", "nextid", "spacer"]

/-- Elements inside which white space is kept as it is. -/
def keepsSpace : List String := ["pre", "textarea"]

/-- Whether an attribute of an element holds a list of words. -/
def holdsWords (element key : String) : Bool :=
  ["class", "accesskey", "dropzone"].contains key ||
  match element with
  | "a" | "link" => ["rel", "rev"].contains key
  | "td" | "th" => key == "headers"
  | "form" => key == "accept-charset"
  | "object" => key == "archive"
  | "area" => key == "rel"
  | "icon" => key == "sizes"
  | "iframe" => key == "sandbox"
  | "output" => key == "for"
  | _ => false

/-- The words of a text: its runs of non-blank characters. -/
def wordsOf (text : String) : List String :=
  ((text.toList.splitBy fun a b => Text.isBlank a == Text.isBlank b).filter fun run =>
    run.any fun c => !Text.isBlank c).map String.ofList

/-- The attributes of an element as it keeps them. -/
def attributesOf (element : String) (read : List (String × Option String)) :
    List (String × AttributeValue) :=
  let values := read.foldl (fun (kept : List (String × String)) (key, value) =>
    let value := match value with
      | some value => if value.isEmpty then value else resolveAttribute value
      | none => ""
    if kept.any (·.1 == key) then kept.map fun entry => if entry.1 == key then (key, value) else entry
    else kept ++ [(key, value)]) []
  values.map fun (key, value) =>
    (key, if holdsWords element key then .words (wordsOf value) else .text value)

/-- The characters a numeric reference in text stands for. -/
def numberText (digits : String) : String :=
  textNumberText (referenceNumber digits.toList)

/-- The characters a named reference in text stands for; an unknown name stands for itself. -/
def nameText (name : String) : String :=
  (namedText? name).getD ("&" ++ name)

/-- An open element: its name, attributes and children so far (last first). -/
structure Frame where
  name : String
  attributes : List (String × AttributeValue)
  children : List Node

/-- The element of a frame. -/
def Frame.close (frame : Frame) : Node :=
  .element frame.name frame.attributes frame.children.reverse

/-- A tree being built: the open elements (innermost first), the document's own children (last
first), the text gathered since the last part, and the void elements closed early. -/
structure Builder where
  open_ : List Frame := []
  top : List Node := []
  pending : List String := []
  closedEarly : List String := []

namespace Builder

/-- Adds a part to the innermost open element, or to the document. -/
def add (builder : Builder) (node : Node) : Builder :=
  match builder.open_ with
  | frame :: outer => { builder with open_ := { frame with children := node :: frame.children } :: outer }
  | [] => { builder with top := node :: builder.top }

/-- Turns the gathered text into a part of the given kind. -/
def flushAs (kind : String → Node) (builder : Builder) : Builder :=
  match builder.pending with
  | [] => builder
  | pieces =>
    let data := String.join pieces.reverse
    let blank := data.toList.all fun c => c == ' ' || c == '\n' || c == '\t' || c == '\x0c' || c == '\r'
    let keeping := builder.open_.any fun frame => keepsSpace.contains frame.name
    let data := if blank && !keeping then (if data.toList.contains '\n' then "\n" else " ") else data
    { builder with pending := [] }.add (kind data)

/-- Turns the gathered text into a text part. -/
def flush (builder : Builder) : Builder :=
  builder.flushAs .text

/-- Closes the innermost open element. -/
def closeOne (builder : Builder) : Builder :=
  match builder.open_ with
  | frame :: outer => { builder with open_ := outer }.add frame.close
  | [] => builder

/-- Closes a number of innermost open elements. -/
def closeMany (builder : Builder) : Nat → Builder
  | 0 => builder
  | count + 1 => (builder.closeOne).closeMany count

/-- Closes the innermost open element of a name and everything inside it, if one is open. -/
def closeNamed (builder : Builder) (name : String) : Builder :=
  match builder.open_.findIdx? (·.name == name) with
  | some depth => builder.closeMany (depth + 1)
  | none => builder

/-- An end tag: ignored once after a void element closed early, else closes its element. -/
def endTag (builder : Builder) (name : String) : Builder :=
  if builder.closedEarly.contains name then { builder with closedEarly := builder.closedEarly.erase name }
  else builder.flush.closeNamed name

/-- A part of its own kind holding a text. -/
def part (builder : Builder) (kind : String → Node) (data : String) : Builder :=
  ({ builder.flush with pending := [data] }).flushAs kind

/-- Takes in one event. -/
def feed (builder : Builder) : Event → Builder
  | .text data => { builder with pending := data :: builder.pending }
  | .number digits => { builder with pending := numberText digits :: builder.pending }
  | .named name => { builder with pending := nameText name :: builder.pending }
  | .start name attributes selfClosing =>
    let opened := { builder.flush with
      open_ := ⟨name, attributesOf name attributes, []⟩ :: builder.flush.open_ }
    if selfClosing then opened.endTag name
    else if voidElements.contains name then
      { opened.closeNamed name with closedEarly := opened.closedEarly ++ [name] }
    else opened
  | .close name => builder.endTag name
  | .comment data => builder.part .comment data
  | .doctype data =>
    builder.part .doctype (if data.startsWith "DOCTYPE " then (data.drop 8).toString else data)
  | .instruction data => builder.part .instruction data
  | .section data =>
    if (data.take 6).toString.toUpper == "CDATA[" then builder.part .section (data.drop 6).toString
    else builder.part .instruction (data ++ "?")

/-- The document: everything closed. -/
def finish (builder : Builder) : List Node :=
  let done := builder.flush.closeMany builder.flush.open_.length
  done.top.reverse

end Builder

/-- The tree of a document. -/
def Node.parse (document : String) : List Node :=
  ((Event.ofDocument document).foldl Builder.feed {}).finish

mutual
/-- The elements of a name that have an attribute, in document order, outer before inner. -/
def Node.elementsWith (name key : String) : Node → List Node
  | .element tag attributes children =>
    let here := if tag == name && attributes.any (·.1 == key) then [.element tag attributes children] else []
    here ++ Node.elementsWithin name key children
  | _ => []
/-- The elements of a name that have an attribute, within a list of parts. -/
def Node.elementsWithin (name key : String) : List Node → List Node
  | [] => []
  | node :: rest => node.elementsWith name key ++ Node.elementsWithin name key rest
end

/-- The value of an attribute of an element. -/
def Node.attribute? (node : Node) (key : String) : Option String :=
  match node with
  | .element _ attributes _ => (attributes.find? (·.1 == key)).map (·.2.joined)
  | _ => none

/-- Text with `&`, `<` and `>` escaped. -/
def escapeMarkup (text : String) : String :=
  String.join (text.toList.map fun c =>
    if c == '&' then "&amp;" else if c == '<' then "&lt;" else if c == '>' then "&gt;" else c.toString)

/-- An attribute value escaped and quoted. -/
def quoteAttribute (value : String) : String :=
  let value := escapeMarkup value
  if value.toList.contains '"' then
    if value.toList.contains '\'' then
      "\"" ++ String.join (value.toList.map fun c => if c == '"' then "&quot;" else c.toString) ++ "\""
    else "'" ++ value ++ "'"
  else "\"" ++ value ++ "\""

/-- The attributes of an element as written in its start tag. -/
def attributesText (attributes : List (String × AttributeValue)) : String :=
  let sorted := attributes.mergeSort fun a b => decide (a.1 ≤ b.1)
  String.join (sorted.map fun (key, value) => " " ++ key ++ "=" ++ quoteAttribute value.joined)

mutual
/-- A part written as markup, inside an element of the given name. -/
def Node.render (parent : String) : Node → String
  | .text value => if parent == "script" || parent == "style" then value else escapeMarkup value
  | .comment value => "<!--" ++ value ++ "-->"
  | .doctype value => "<!DOCTYPE " ++ value ++ ">\n"
  | .instruction value => "<?" ++ value ++ ">"
  | .section value => "<![CDATA[" ++ value ++ "]]>"
  | .element name attributes children =>
    if children.isEmpty && voidElements.contains name then
      "<" ++ name ++ attributesText attributes ++ "/>"
    else
      "<" ++ name ++ attributesText attributes ++ ">" ++ Node.renderAll name children ++ "</" ++ name ++ ">"
/-- Parts written one after another. -/
def Node.renderAll (parent : String) : List Node → String
  | [] => ""
  | node :: rest => node.render parent ++ Node.renderAll parent rest
end

end Listening.Web
