import Listening.Datum
import Listening.Query.Node

/-!
# Trees as data

A tree travels as a record: its kind's name under `type`, its value under `value` when it has
one, and its children under `children` when there are any. Reading a record back accepts a
missing or empty `value` and `children`; any other shape is refused.
-/

namespace Listening.Query

namespace Node

/-- The record of a tree. -/
def toDatum : Node → Datum
  | ⟨kind, value, children⟩ =>
    let valueField := match value with
      | some text => [("value", Datum.str text)]
      | none => []
    let childField :=
      if children.isEmpty then []
      else [("children", Datum.list (children.attach.map fun ⟨child, _⟩ => child.toDatum))]
    .record ([("type", .str kind.name)] ++ valueField ++ childField)

/-- The field of a record under a name. -/
def lookup (fields : List (String × Datum)) (name : String) : Option Datum :=
  (fields.find? (fun field => field.1 == name)).map Prod.snd

/-- Reads a tree back from its record; `none` when the datum is not the record of a tree. -/
def ofDatum? : Datum → Option Node
  | .record fields =>
    let kind? : Option Kind :=
      match lookup fields "type" with
      | some (.str name) => some (Kind.ofName name)
      | _ => none
    let value? : Option (Option String) :=
      match lookup fields "value" with
      | none | some .none => some none
      | some (.str text) => some (some text)
      | _ => none
    let children? : Option (List Node) :=
      match fields.attach.find? (·.1.1 == "children") with
      | none => some []
      | some ⟨(_, .none), _⟩ => some []
      | some ⟨(_, .list items), member⟩ =>
        items.attach.mapM fun ⟨item, inItems⟩ =>
          have : sizeOf item < 1 + sizeOf fields := by
            have h1 := List.sizeOf_lt_of_mem inItems
            have h2 := List.sizeOf_lt_of_mem member
            simp at h2
            omega
          ofDatum? item
      | some _ => none
    match kind?, value?, children? with
    | some kind, some value, some children => some ⟨kind, value, children⟩
    | _, _, _ => none
  | _ => none
decreasing_by
  simp only [Datum.record.sizeOf_spec]
  assumption

end Node

end Listening.Query
