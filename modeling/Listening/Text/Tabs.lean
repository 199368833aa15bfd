/-!
# Tab stops

Expanding tabs replaces each tab by the spaces that reach the next tab stop. The column counts
characters since the last line feed or carriage return.
-/

namespace Listening.Text

/-- Expands tabs to stops every `width` columns, starting at column `column`. -/
def expandTabsFrom (width : Nat) : Nat → List Char → List Char
  | _, [] => []
  | column, c :: rest =>
    if c = '\t' then
      let fill := width - column % width
      List.replicate fill ' ' ++ expandTabsFrom width (column + fill) rest
    else if c = '\n' || c = '\r' then
      c :: expandTabsFrom width 0 rest
    else
      c :: expandTabsFrom width (column + 1) rest

/-- Expands tabs to stops every eight columns. -/
def expandTabs (chars : List Char) : List Char :=
  expandTabsFrom 8 0 chars

end Listening.Text
