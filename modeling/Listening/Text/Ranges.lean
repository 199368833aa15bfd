/-!
# Character tables

A character class of the Unicode standard is stored as an array of inclusive ranges of code
points. Membership is the plain statement "some range holds the code point", so a table means
exactly the union of its ranges, whatever their order.
-/

namespace Listening.Text

/-- A character class as inclusive ranges of code points. -/
abbrev RangeTable := Array (Nat × Nat)

/-- Whether some range of the table holds the code point. -/
def RangeTable.contains (table : RangeTable) (code : Nat) : Bool :=
  table.any fun range => range.1 ≤ code && code ≤ range.2

end Listening.Text
