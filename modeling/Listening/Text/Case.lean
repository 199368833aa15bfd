import Listening.Text.CaseTables

/-!
# Lower-case text

Lower-casing maps every character through the simple lower-case mapping, with two exceptions
from the full mapping: capital I with dot above becomes a small i followed by a combining dot
above, and capital sigma becomes the final form when it ends a word. It ends a word when,
looking through case-ignorable characters, a cased character stands before it and none after.
-/

namespace Listening.Text

/-- Whether a character has case. -/
def isCased (c : Char) : Bool :=
  casedTable.contains c.toNat

/-- Whether case mapping looks through a character when it inspects the neighbours of a sigma. -/
def isCaseIgnorable (c : Char) : Bool :=
  caseIgnorableTable.contains c.toNat

/-- Whether a run of the lower-case mapping covers a code point. -/
def CaseRun.covers (run : CaseRun) (code : Nat) : Bool :=
  run.first ≤ code && code ≤ run.last && (code - run.first) % run.step == 0

/-- The simple lower-case form of a character. -/
def lowerChar (c : Char) : Char :=
  match lowerRuns.find? (·.covers c.toNat) with
  | some run => Char.ofNat (c.toNat + run.shift).toNat
  | none => c

/-- Whether the first character that is not case-ignorable is cased; the characters are listed
from the sigma outwards. -/
def casedBeyond : List Char → Bool
  | [] => false
  | c :: rest => if isCaseIgnorable c then casedBeyond rest else isCased c

/-- The lower-case form of capital sigma between the characters before it (nearest first) and
after it: the final form when a cased character precedes and none follows. -/
def lowerSigma (before after : List Char) : Char :=
  if casedBeyond before && !casedBeyond after then 'ς' else 'σ'

/-- Lower-cases the characters `rest`, given the characters already passed, nearest first. -/
def lowerFrom (before : List Char) : List Char → List Char
  | [] => []
  | c :: rest =>
    let head :=
      if c = 'Σ' then [lowerSigma before rest]
      else if c = '\u0130' then ['i', '\u0307']
      else [lowerChar c]
    head ++ lowerFrom (c :: before) rest

/-- The lower-case form of a text. -/
def lower (text : String) : String :=
  String.ofList (lowerFrom [] text.toList)

end Listening.Text
