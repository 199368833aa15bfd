import Listening.Text.Case

/-!
# Reading tags

A tag starts with `<` (`</` for a closing tag) and a letter. Its name runs up to a space
character, `/` or `>`; spaces are tab, line feed, carriage return, form feed and the space.
Attributes follow: a name that starts after a space, a quote or a slash and runs up to a space,
`/`, `=` or `>`, then optionally `=` (spaces around it allowed) and a value: quoted with `'` or
`"`, or bare up to a space or `>`. A quote that is never closed cannot start a value; then the
value is empty if a space stood before the quote, and there is no value otherwise. Spaces and
slashes separate attributes. The tag is complete when this reading ends on `>`.

Here the length of a tag and its parts are read off a list of characters; names are
lower-cased.
-/

namespace Listening.Web

/-- The space characters of markup. -/
def isMarkupSpace (c : Char) : Bool :=
  c == '\t' || c == '\n' || c == '\r' || c == '\x0c' || c == ' '

/-- Whether a character is an ASCII letter. -/
def isAsciiLetter (c : Char) : Bool :=
  ('a' ≤ c && c ≤ 'z') || ('A' ≤ c && c ≤ 'Z')

/-- Characters that go on in a tag name. -/
def inTagName (c : Char) : Bool :=
  !isMarkupSpace c && c != '/' && c != '>'

/-- Characters that go on in an attribute name. -/
def inAttributeName (c : Char) : Bool :=
  inTagName c && c != '='

/-- Whether an attribute name may start at `c` after `before`. -/
def opensAttribute (before c : Char) : Bool :=
  (before == '\'' || before == '"' || isMarkupSpace before || before == '/') && inTagName c

/-- The length of the longest prefix whose characters pass a test. -/
def spanWhile (test : Char → Bool) (chars : List Char) : Nat :=
  (chars.takeWhile test).length

/-- The length of a value body at the start of a list, with the value: a quoted value up to its
closing quote, or a bare one up to a space or `>`. Nothing for a quote that is never closed. -/
def valueBody (chars : List Char) : Option (Nat × List Char) :=
  match chars with
  | q :: rest =>
    if q == '\'' || q == '"' then
      let inside := rest.takeWhile (· != q)
      if inside.length < rest.length then some (inside.length + 2, q :: inside ++ [q]) else none
    else
      let bare := chars.takeWhile fun c => c != '>' && !isMarkupSpace c
      some (bare.length, bare)
  | [] => some (0, [])

/-- The `= value` part after an attribute name: its length and the value (quotes kept), or
nothing when the name has no value. -/
def valuePart (chars : List Char) : Option (Nat × List Char) :=
  let before := spanWhile isMarkupSpace chars
  match chars.drop before with
  | '=' :: afterSign =>
    let after := spanWhile isMarkupSpace afterSign
    match valueBody (afterSign.drop after) with
    | some (length, value) => some (before + 1 + after + length, value)
    | none => if after = 0 then none else some (before + after, [])
  | _ => none

/-- The last of some characters, or a fallback when there are none. -/
def lastOr (fallback : Char) (chars : List Char) : Char :=
  chars.getLast?.getD fallback

/-- What separates attributes when a tag is measured: spaces and slashes. -/
def measureGap (c : Char) : Bool :=
  isMarkupSpace c || c == '/'

/-- What separates attributes when they are read: spaces, and slashes not right before `>`. -/
def readGap : List Char → Nat
  | c :: rest =>
    if isMarkupSpace c then 1 + readGap rest
    else if c == '/' && rest.head? != some '>' then 1 + readGap rest
    else 0
  | [] => 0

/-- One attribute at the start of a list after the character `before`: its name, its value
when it has one, and the length read up to the next attribute. -/
def attributeAt (gap : List Char → Nat) (before : Char) (chars : List Char) :
    Option (String × Option String × Nat) :=
  match chars with
  | c :: more =>
    if opensAttribute before c then
      let nameLength := 1 + spanWhile inAttributeName more
      let afterName := chars.drop nameLength
      let (valueLength, value) := match valuePart afterName with
        | some (length, value) => (length, some (String.ofList value))
        | none => (0, none)
      let afterValue := afterName.drop valueLength
      some (String.ofList (chars.take nameLength), value, nameLength + valueLength + gap afterValue)
    else none
  | [] => none

theorem attributeAt_pos {gap : List Char → Nat} {before : Char} {chars : List Char}
    {name : String} {value : Option String} {length : Nat}
    (h : attributeAt gap before chars = some (name, value, length)) : 0 < length := by
  unfold attributeAt at h
  split at h
  · split at h
    · simp only [Option.some.injEq, Prod.mk.injEq] at h
      omega
    · cases h
  · cases h

/-- The attributes at the start of a list after the character `before`, with the length read. -/
def attributesFrom (gap : List Char → Nat) (before : Char) (chars : List Char) :
    List (String × Option String) × Nat :=
  match _found : attributeAt gap before chars with
  | some (name, value, length) =>
    let (more, rest) := attributesFrom gap (lastOr before (chars.take length)) (chars.drop length)
    ((name, value) :: more, length + rest)
  | none => ([], 0)
termination_by chars.length
decreasing_by
  have := attributeAt_pos _found
  have : chars ≠ [] := by
    rintro rfl
    simp [attributeAt] at _found
  have : 0 < chars.length := List.length_pos_iff.mpr this
  simp only [List.length_drop]
  omega

/-- The length of a tag's name at the start of a list (a letter first). -/
def tagNameLength (chars : List Char) : Nat :=
  match chars with
  | _ :: rest => 1 + spanWhile inTagName rest
  | [] => 0

/-- The length of a tag from its name on, and whether it is complete (ends on `>`). -/
def measureTag (chars : List Char) : Nat × Bool :=
  let nameLength := tagNameLength chars
  let afterName := chars.drop nameLength
  let gapLength := spanWhile measureGap afterName
  let before := lastOr ' ' (chars.take (nameLength + gapLength))
  let (_, attributesLength) := attributesFrom (spanWhile measureGap) before (afterName.drop gapLength)
  let length := nameLength + gapLength + attributesLength
  match chars.drop length with
  | '>' :: _ => (length + 1, true)
  | _ => (length, false)

/-- A start tag read: its name, its attributes with their raw values (quotes removed), and
whether it closes itself (`/>`); or text, when what follows the attributes is not an end. -/
inductive StartTag where
  | tag (name : String) (attributes : List (String × Option String)) (selfClosing : Bool)
  | text

/-- A value without the quotes around it. -/
def unquoted (value : String) : String :=
  let chars := value.toList
  match chars, chars.getLast? with
  | q :: _, some last =>
    if chars.length ≥ 2 && (q == '\'' || q == '"') && last == q then
      String.ofList (chars.drop 1).dropLast
    else value
  | _, _ => value

/-- Reads a complete start tag of `length` characters (after its `<`). -/
def readStartTag (chars : List Char) (length : Nat) : StartTag :=
  let nameLength := tagNameLength chars
  let name := Text.lower (String.ofList (chars.take nameLength))
  let afterName := chars.drop nameLength
  let gapLength := readGap afterName
  let before := lastOr ' ' (chars.take (nameLength + gapLength))
  let (attributes, attributesLength) := attributesFrom readGap before (afterName.drop gapLength)
  let used := nameLength + gapLength + attributesLength
  let ending := (((chars.take length).drop used).dropWhile Char.isWhitespace).reverse.dropWhile
    Char.isWhitespace
  let attributes := attributes.map fun (key, value) => (Text.lower key, value.map unquoted)
  -- what follows the attributes, without the spaces around it, read backwards
  if ending == ['>'] then .tag name attributes false
  else if ending == ['>', '/'] then .tag name attributes true
  else .text

end Listening.Web
