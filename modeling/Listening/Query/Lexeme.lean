import Listening.Text.Blank
import Listening.Text.Word

/-!
# Lexemes of the query language

Reading walks a cursor over the query text. Between two lexemes it passes separators (space,
tab, carriage return, line feed); no other blank separates lexemes. The lexemes are:

* a bare word: a run of characters that are neither blank nor a parenthesis nor a double quote;
* a quoted phrase: text between double quotes, where a backslash escapes the next character
  (`\t`, `\n`, `\f` and `\r` stand for tab, line feed, form feed and carriage return) and no
  raw line break may stand;
* a braced term: an opening brace, any characters but a closing brace, and the closing brace;
* the keywords NOT, AND and OR in any letter case, which may not touch a keyword character on
  either side;
* the proximity operator: NEAR, a slash, decimal digits and an optional f, in any letter case.

Each scanner returns what it read and the rest of the text, which is strictly shorter.
-/

namespace Listening.Query

open Listening.Text

/-- A text strictly shorter than `text`: what a scanner leaves after reading something. -/
abbrev Shorter (text : List Char) := { rest : List Char // rest.length < text.length }

/-- A reading position: the characters already read, nearest first, and the rest. -/
structure Cursor where
  read : List Char
  rest : List Char

namespace Cursor

/-- The number of characters read so far. -/
def position (cursor : Cursor) : Nat :=
  cursor.read.length

/-- The last character read, if any. -/
def previous (cursor : Cursor) : Option Char :=
  cursor.read.head?

/-- Moves the cursor to a suffix of its rest; the characters passed over count as read. -/
def moveTo (cursor : Cursor) (rest : List Char) : Cursor :=
  ⟨(cursor.rest.take (cursor.rest.length - rest.length)).reverse ++ cursor.read, rest⟩

end Cursor

/-- The characters that separate lexemes. -/
def isSeparator (c : Char) : Bool :=
  c = ' ' || c = '\t' || c = '\r' || c = '\n'

/-- Passes the separators at the cursor. -/
def Cursor.skipSeparators (cursor : Cursor) : Cursor :=
  cursor.moveTo (cursor.rest.dropWhile isSeparator)

theorem length_dropWhile_le (p : Char → Bool) :
    ∀ text : List Char, (text.dropWhile p).length ≤ text.length
  | [] => Nat.le_refl _
  | c :: more => by
    rw [List.dropWhile_cons]
    split
    · exact Nat.le_succ_of_le (length_dropWhile_le p more)
    · exact Nat.le_refl _

theorem length_dropWhile_lt_cons (p : Char → Bool) (c : Char) (more : List Char) :
    (more.dropWhile p).length < (c :: more).length :=
  Nat.lt_succ_of_le (length_dropWhile_le p more)

@[simp] theorem Cursor.moveTo_rest (cursor : Cursor) (rest : List Char) :
    (cursor.moveTo rest).rest = rest := rfl

theorem Cursor.skipSeparators_length_le (cursor : Cursor) :
    cursor.skipSeparators.rest.length ≤ cursor.rest.length :=
  length_dropWhile_le _ _

/-- Characters that may stand in a bare word. -/
def isBareChar (c : Char) : Bool :=
  !isBlank c && c != '(' && c != ')' && c != '"'

/-- Reads a bare word: the longest non-empty run of word characters. -/
def scanBare (text : List Char) : Option (List Char × Shorter text) :=
  match text with
  | [] => none
  | c :: more =>
    if isBareChar c then
      some (c :: more.takeWhile isBareChar,
        ⟨more.dropWhile isBareChar, length_dropWhile_lt_cons isBareChar c more⟩)
    else none

/-- The character that an escape stands for. -/
def unescape (c : Char) : Char :=
  if c = 't' then '\t'
  else if c = 'n' then '\n'
  else if c = 'f' then '\x0c'
  else if c = 'r' then '\r'
  else c

/-- Reads the inside of a quoted phrase up to and including its closing quote, decoding
escapes. -/
def scanQuotedBody : (text : List Char) → Option (List Char × Shorter text)
  | [] => none
  | '"' :: rest => some ([], ⟨rest, by simp⟩)
  | '\\' :: c :: rest =>
    if c = '\n' then none
    else
      match scanQuotedBody rest with
      | some (value, ⟨after, h⟩) =>
        some (unescape c :: value, ⟨after, by simp only [List.length_cons]; omega⟩)
      | none => none
  | c :: rest =>
    if c = '\\' || c = '\n' || c = '\r' then none
    else
      match scanQuotedBody rest with
      | some (value, ⟨after, h⟩) =>
        some (c :: value, ⟨after, by simp only [List.length_cons]; omega⟩)
      | none => none

/-- Reads a quoted phrase; the value is its decoded inside. -/
def scanQuoted : (text : List Char) → Option (List Char × Shorter text)
  | '"' :: rest =>
    match scanQuotedBody rest with
    | some (value, ⟨after, h⟩) => some (value, ⟨after, by simp only [List.length_cons]; omega⟩)
    | none => none
  | _ => none

/-- Reads a braced term; the value keeps both braces. -/
def scanBraced : (text : List Char) → Option (List Char × Shorter text)
  | '{' :: rest =>
    match h : rest.dropWhile (· != '}') with
    | '}' :: after =>
      some ('{' :: rest.takeWhile (· != '}') ++ ['}'], ⟨after, by
        have bound := length_dropWhile_le (· != '}') rest
        rw [h] at bound
        simp only [List.length_cons] at bound ⊢
        omega⟩)
    | _ => none
  | _ => none

/-- Characters that a keyword may not touch: those whose upper-case form is an ASCII letter or
digit, the underscore or the dollar sign. Besides those characters themselves, these are the
dotless i and the long s. -/
def isKeywordChar (c : Char) : Bool :=
  c.isAlphanum || c = '_' || c = '$' || c = 'ı' || c = 'ſ'

/-- Whether a character equals an upper-case ASCII letter up to letter case. -/
def sameLetter (c upper : Char) : Bool :=
  c = upper || c = upper.toLower

/-- Reads the letters of a word, up to letter case, at the start of a text. -/
def scanLetters : (word text : List Char) → Option (Shorter text)
  | [], _ => none
  | [w], c :: rest => if sameLetter c w then some ⟨rest, by simp⟩ else none
  | w :: more, c :: rest =>
    if sameLetter c w then
      match scanLetters more rest with
      | some ⟨after, h⟩ => some ⟨after, by simp only [List.length_cons]; omega⟩
      | none => none
    else none
  | _ :: _, [] => none

/-- Reads a keyword at the cursor: its letters in any case, with no keyword character right
before or right after it. -/
def scanKeyword (word : List Char) (cursor : Cursor) : Option (Shorter cursor.rest) :=
  match scanLetters word cursor.rest with
  | some ⟨after, h⟩ =>
    let before := cursor.previous.any isKeywordChar
    let next := after.head?.any isKeywordChar
    if before || next then none else some ⟨after, h⟩
  | none => none

/-- Reads the proximity operator: NEAR, a slash, one or more decimal digits, an optional f. -/
def scanNear (text : List Char) : Option (Shorter text) :=
  match scanLetters ['N', 'E', 'A', 'R', '/'] text with
  | some ⟨after, h⟩ =>
    match after with
    | d :: more =>
      if isDecimalDigit d then
        let rest := more.dropWhile isDecimalDigit
        have hr : rest.length ≤ more.length := length_dropWhile_le _ _
        match rest with
        | f :: last =>
          if f = 'f' || f = 'F' then
            some ⟨last, by simp_all only [List.length_cons]; omega⟩
          else some ⟨f :: last, by simp_all only [List.length_cons]; omega⟩
        | [] => some ⟨[], by simp_all only [List.length_cons]; omega⟩
      else none
    | [] => none
  | none => none

end Listening.Query
