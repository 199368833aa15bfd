import Listening.Decimal.Text
import Listening.Text.Quoted

/-!
# Data from the caller

Requests carry data of a few shapes: nothing, truth values, whole numbers, floats, texts, lists
and records of named fields. Some operations accept data of any shape and show it, so a datum
has a plain text (`display`: a text as itself) and a literal text (`literal`: a text quoted),
and the name of its shape, which error messages use.
-/

namespace Listening

open Listening.Text Listening.Decimal

/-- A datum handed in by a caller. -/
inductive Datum where
  | none
  | bool (value : Bool)
  | int (value : Int)
  | float (value : Float)
  | str (value : String)
  | list (items : List Datum)
  | record (fields : List (String × Datum))
deriving Inhabited

namespace Datum

/-- The name of the shape of a datum, as error messages give it. -/
def shapeName : Datum → String
  | none => "NoneType"
  | bool _ => "bool"
  | int _ => "int"
  | float _ => "float"
  | str _ => "str"
  | list _ => "list"
  | record _ => "dict"

/-- The literal text of a datum: texts quoted, lists in brackets and records in braces, their
members written literally and separated by a comma and a space. -/
def literal : Datum → String
  | none => "None"
  | bool value => if value then "True" else "False"
  | int value => toString value
  | float value => shortText value
  | str value => Text.literal value
  | list items => "[" ++ ", ".intercalate (items.attach.map fun ⟨item, _⟩ => literal item) ++ "]"
  | record fields =>
    "\x7b" ++ ", ".intercalate (fields.attach.map fun ⟨(key, value), member⟩ =>
      have : sizeOf value < 1 + sizeOf fields := by
        have := List.sizeOf_lt_of_mem member
        simp only [Prod.mk.sizeOf_spec] at this
        omega
      Text.literal key ++ ": " ++ literal value) ++ "\x7d"

/-- The plain text of a datum: a text is itself; the rest as in `literal`. -/
def display : Datum → String
  | str value => value
  | other => literal other

/-- The field of a record under a name (the last one, if the name repeats). -/
def field? (datum : Datum) (name : String) : Option Datum :=
  match datum with
  | record fields => (fields.reverse.find? (·.1 == name)).map (·.2)
  | _ => Option.none

/-- The text of a datum, when it is one. -/
def text? : Datum → Option String
  | str value => some value
  | _ => Option.none

/-- The whole number of a datum, when it is one. -/
def int? : Datum → Option Int
  | int value => some value
  | _ => Option.none

/-- The items of a datum, when it is a list. -/
def items? : Datum → Option (List Datum)
  | list items => some items
  | _ => Option.none

/-- Whether a datum is nothing. -/
def isNone : Datum → Bool
  | none => true
  | _ => false

/-- Whether a datum counts as true in a test: all but nothing, false, zero and the empty text,
list and record. -/
def truthy : Datum → Bool
  | none => false
  | bool value => value
  | int value => value != 0
  | float value => value != 0
  | str value => !value.isEmpty
  | list items => !items.isEmpty
  | record fields => !fields.isEmpty

end Datum

end Listening
