import Listening.Proofs.Meaning

/-!
# The single steps on a conjunction keep its meaning

Expanding a conjunction at a disjunction child gives the disjunction, over that child's
children, of the conjunctions that put each of them in the child's place. The position may
count from the end, and the two cuts around the child are taken as the position and the one
after it give them. For every position but `-1` this puts each choice exactly in the chosen
child's place (`Node.expandAt_inside`). After `-1` comes `0`, which cuts before the first
child: each choice is followed by every child again, the disjunction itself among them
(`Node.expandAt_last`). The meaning is the same either way (`Node.expandAt_holds`), since a
conjunction that lists its children twice means what it means with them once.

Splicing reports a change exactly when a child is a conjunction, gives the node back when it
reports none, and keeps the meaning (`spliceChildren_holds`). `conjunction_steps_keep_meaning`
gathers both steps. Each step is a function of the node, which it never changes.
-/

namespace Listening

/-- A position inside a list, counted from either end, cuts the list before an item. -/
theorem cutPoint_lt_of_inside {length : Nat} {position : Int}
    (lower : -(length : Int) ≤ position) (upper : position < length) :
    cutPoint length position < length := by
  unfold cutPoint
  split <;> omega

/-- The item at a position inside a list is the one its cut point stands before. -/
theorem itemAt?_eq_getElem?_cutPoint {α : Type} {items : List α} {position : Int}
    (lower : -(items.length : Int) ≤ position) (upper : position < items.length) :
    itemAt? items position = items[cutPoint items.length position]? := by
  unfold itemAt? cutPoint
  split
  · rw [if_pos (by omega)]
    congr 1
    omega
  · congr 1
    omega

/-- The position after one inside a list cuts one item further, unless the position is `-1`:
the next one, `0`, counts from the start. -/
theorem cutPoint_add_one {length : Nat} {position : Int}
    (lower : -(length : Int) ≤ position) (upper : position < length) (notLast : position ≠ -1) :
    cutPoint length (position + 1) = cutPoint length position + 1 := by
  unfold cutPoint
  split <;> split <;> omega

/-- Position `-1` names the last item. -/
theorem itemAt?_last {α : Type} (items : List α) : itemAt? items (-1) = items.getLast? := by
  rw [List.getLast?_eq_getElem?]
  cases items with
  | nil => rfl
  | cons item rest => simp [itemAt?]

end Listening

namespace Listening.Query

namespace Node

/-- Expanding at a position that names a child: the children before the position's cut and
those after the next position's cut stand around each choice. -/
theorem expandAt_of_itemAt? {node chosen : Node} {position : Int}
    (found : itemAt? node.children position = some chosen) :
    node.expandAt position = .ok (.compound .or (chosen.children.map fun choice =>
      .compound .and (node.children.take (cutPoint node.children.length position) ++ choice ::
        node.children.drop (cutPoint node.children.length (position + 1))))) := by
  simp only [expandAt, found]

/-- Expanding at a position inside the children other than `-1` puts each choice in the chosen
child's place. -/
theorem expandAt_inside {node : Node} {position : Int}
    (lower : -(node.children.length : Int) ≤ position) (upper : position < node.children.length)
    (notLast : position ≠ -1) :
    ∃ index, ∃ inside : index < node.children.length,
      itemAt? node.children position = some node.children[index] ∧
      node.expandAt position = .ok (.compound .or (node.children[index].children.map fun choice =>
        .compound .and (node.children.take index ++ choice :: node.children.drop (index + 1)))) := by
  have inside := cutPoint_lt_of_inside lower upper
  have found : itemAt? node.children position =
      some node.children[cutPoint node.children.length position] := by
    rw [itemAt?_eq_getElem?_cutPoint lower upper, List.getElem?_eq_getElem inside]
  refine ⟨_, inside, found, ?_⟩
  rw [expandAt_of_itemAt? found, cutPoint_add_one lower upper notLast]

/-- Expanding at `-1` chooses from the last child and follows each choice by every child again:
the cut after `-1` is the one at `0`, before the first child. -/
theorem expandAt_last {node : Node} (nonempty : node.children ≠ []) :
    node.expandAt (-1) = .ok (.compound .or ((node.children.getLast nonempty).children.map
      fun choice => .compound .and (node.children.dropLast ++ choice :: node.children))) := by
  rw [expandAt_of_itemAt? (by rw [itemAt?_last, List.getLast?_eq_some_getLast nonempty])]
  have cutBefore : cutPoint node.children.length (-1) = node.children.length - 1 := by
    have : node.children.length ≠ 0 := by simpa using nonempty
    rw [cutPoint, if_pos (by decide)]
    omega
  have cutAfter : cutPoint node.children.length (-1 + 1) = 0 := by
    simp [cutPoint]
  rw [cutBefore, cutAfter, List.drop_zero, List.dropLast_eq_take]

/-- Expanding at a disjunction child named from either end succeeds, and the result holds
exactly where all the children do. -/
theorem expandAt_holds {node : Node} {position : Int}
    (lower : -(node.children.length : Int) ≤ position) (upper : position < node.children.length)
    (isOr : ∀ chosen ∈ itemAt? node.children position, chosen.kind = .or) :
    ∃ result, node.expandAt position = .ok result ∧
      ∀ present, result.holds present = node.children.all (holds present) := by
  by_cases last : position = -1
  · subst last
    have nonempty : node.children ≠ [] := by
      intro empty
      simp [empty] at lower
    have lastIsOr := isOr _ (by rw [itemAt?_last, List.getLast?_eq_some_getLast nonempty]; rfl)
    refine ⟨_, expandAt_last nonempty, fun present => ?_⟩
    -- The list is every child but the last, the last, then every child again: the children twice.
    rw [holds_choices_of_or present lastIsOr, ← List.singleton_append, ← List.append_assoc,
      List.dropLast_concat_getLast, List.all_append, Bool.and_self]
  · obtain ⟨index, inside, found, expanded⟩ := expandAt_inside lower upper last
    refine ⟨_, expanded, fun present => ?_⟩
    rw [holds_choices_of_or present (isOr _ found), List.getElem_cons_drop, List.take_append_drop]

/-- Splicing reports a change exactly when the node is a conjunction with a conjunction child. -/
theorem spliceChildren_reported (node : Node) :
    node.spliceChildren.2 = true ↔
      node.kind = .and ∧ ∃ child ∈ node.children, child.kind = .and := by
  unfold spliceChildren
  split <;> simp_all

/-- A splice that reports no change gives the node back. -/
theorem spliceChildren_of_unreported {node : Node} (unreported : node.spliceChildren.2 = false) :
    node.spliceChildren.1 = node := by
  unfold spliceChildren at *
  split <;> simp_all

end Node

/-- Both single steps on a conjunction keep its meaning. Expanding at a disjunction child named
from either end, `-1` included, succeeds with a tree that holds exactly where the conjunction
does. Splicing reports a change exactly when a child is a conjunction, gives the conjunction
back when it reports none, and keeps its meaning. -/
theorem conjunction_steps_keep_meaning (value : Option String) (children : List Node) :
    (∀ position : Int, -(children.length : Int) ≤ position → position < children.length →
      (∀ chosen ∈ itemAt? children position, chosen.kind = .or) →
      ∃ result, Node.expandAt ⟨.and, value, children⟩ position = .ok result ∧
        ∀ present, result.holds present = Node.holds present ⟨.and, value, children⟩) ∧
    ((Node.spliceChildren ⟨.and, value, children⟩).2 = true ↔
      ∃ child ∈ children, child.kind = .and) ∧
    ((Node.spliceChildren ⟨.and, value, children⟩).2 = false →
      (Node.spliceChildren ⟨.and, value, children⟩).1 = ⟨.and, value, children⟩) ∧
    ∀ present, (Node.spliceChildren ⟨.and, value, children⟩).1.holds present =
      Node.holds present ⟨.and, value, children⟩ := by
  refine ⟨fun position lower upper isOr => ?_, ?_, Node.spliceChildren_of_unreported,
    fun present => spliceChildren_holds present _⟩
  · obtain ⟨result, expanded, same⟩ :=
      @Node.expandAt_holds ⟨.and, value, children⟩ position lower upper isOr
    exact ⟨result, expanded, fun present => by rw [same, Node.holds_and]⟩
  · simp [Node.spliceChildren_reported]

/-- Expanding `AND(a, OR(b, c))` at `-1` repeats both children after each choice, and means
what the conjunction means. -/
theorem expansion_at_last_repeats_children :
    Node.expandAt ⟨.and, none, [.term "a", .compound .or [.term "b", .term "c"]]⟩ (-1) =
        .ok (.compound .or
          [.compound .and [.term "a", .term "b", .term "a", .compound .or [.term "b", .term "c"]],
           .compound .and [.term "a", .term "c", .term "a", .compound .or [.term "b", .term "c"]]]) ∧
      ∀ present, Node.holds present (.compound .or
          [.compound .and [.term "a", .term "b", .term "a", .compound .or [.term "b", .term "c"]],
           .compound .and [.term "a", .term "c", .term "a", .compound .or [.term "b", .term "c"]]]) =
        Node.holds present ⟨.and, none, [.term "a", .compound .or [.term "b", .term "c"]]⟩ := by
  obtain ⟨result, expanded, same⟩ := (conjunction_steps_keep_meaning none
    [.term "a", .compound .or [.term "b", .term "c"]]).1 (-1) (by decide) (by decide)
    (by simp [itemAt?, Node.compound])
  have computed : Node.expandAt ⟨.and, none, [.term "a", .compound .or [.term "b", .term "c"]]⟩ (-1) =
      .ok (.compound .or
        [.compound .and [.term "a", .term "b", .term "a", .compound .or [.term "b", .term "c"]],
         .compound .and [.term "a", .term "c", .term "a", .compound .or [.term "b", .term "c"]]]) := rfl
  rw [computed] at expanded
  cases expanded
  exact ⟨computed, same⟩

end Listening.Query
