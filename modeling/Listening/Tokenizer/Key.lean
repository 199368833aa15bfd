import Listening.Number

/-!
# Token identifiers

A vocabulary maps token texts to identifiers, which may be any datum that can serve as a key:
nothing, a truth value, a whole number, a float or a text. Two identifiers name the same entry
when they are equal as keys: numbers (truth values counting as 0 and 1) by their exact value, so
a float names a whole number's entry only when it is exactly that number (`Number.equals`); texts
by their characters, and nothing only with nothing. Lists and records cannot be keys.
-/

namespace Listening.Tokenizer

/-- An identifier of a vocabulary entry. -/
inductive Key where
  | none
  | bool (value : Bool)
  | int (value : Int)
  | float (value : Float)
  | text (value : String)
deriving Inhabited

namespace Key

/-- The number a key stands for, with truth values as 0 and 1. -/
def number? : Key → Option Number
  | bool value => some (.whole (if value then 1 else 0))
  | int value => some (.whole value)
  | float value => some (.real value)
  | _ => Option.none

/-- Whether two identifiers name the same entry. -/
def same : Key → Key → Bool
  | none, none => true
  | text a, text b => a == b
  | a, b =>
    match a.number?, b.number? with
    | some x, some y => x.equals y
    | _, _ => false

/-- The key of a datum, or the name of its shape when it cannot be a key. -/
def ofDatum : Datum → Except String Key
  | .none => .ok none
  | .bool value => .ok (bool value)
  | .int value => .ok (int value)
  | .float value => .ok (float value)
  | .str value => .ok (text value)
  | other => .error other.shapeName

/-- The datum of a key. -/
def toDatum : Key → Datum
  | none => .none
  | bool value => .bool value
  | int value => .int value
  | float value => .float value
  | text value => .str value

/-- The literal text of a key, as an unknown-key message shows it. -/
def literal (key : Key) : String :=
  key.toDatum.literal

end Key

end Listening.Tokenizer
