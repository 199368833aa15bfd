import Listening.Index
import Listening.Query.Node

/-!
# Single steps on a conjunction

Two single steps on a conjunction node, as the pass-based normalizer applies them:

* splicing: each conjunction child gives way to its children (one level). It reports whether
  any child was a conjunction, and leaves other nodes alone;
* expanding at a child: the node becomes a disjunction with one conjunction per child of the
  chosen child, each holding the children before the chosen one, that child's child, and the
  children after it. The position may count from the end (`-1` is the last child); the parts
  before and after are then cut as counted from the end too, so that `-1` gives every child as
  "after".
-/

namespace Listening.Query

/-- Why a step on a conjunction stops. -/
inductive StepFault where
  /-- A child was asked for at a position that the list does not have. -/
  | noChildAt
  /-- A parent's list no longer has the slot recorded for a node that was replaced. -/
  | noSlotAt
deriving DecidableEq, Repr

/-- The message of a step fault. -/
def StepFault.message : StepFault → String
  | .noChildAt => "list index out of range"
  | .noSlotAt => "list assignment index out of range"

namespace Node

/-- Splices the conjunction children of a conjunction; reports whether there was one. -/
def spliceChildren (node : Node) : Node × Bool :=
  if node.kind = .and && node.children.any (·.kind = .and) then
    ({ node with children := node.children.flatMap fun child =>
        if child.kind = .and then child.children else [child] }, true)
  else (node, false)

/-- Expands a node at the child in a position: one conjunction per child of that child. -/
def expandAt (node : Node) (position : Int) : Except StepFault Node :=
  match itemAt? node.children position with
  | none => .error .noChildAt
  | some chosen =>
    let count := node.children.length
    let before := node.children.take (cutPoint count position)
    let after := node.children.drop (cutPoint count (position + 1))
    .ok (.compound .or (chosen.children.map fun choice => .compound .and (before ++ choice :: after)))

end Node

end Listening.Query
