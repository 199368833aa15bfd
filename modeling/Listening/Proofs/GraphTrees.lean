import Mathlib.Algebra.Order.Field.Basic
import Mathlib.Algebra.Order.Ring.Rat
import Mathlib.Data.Finset.Card
import Mathlib.Data.List.Forall2
import Listening.Proofs.Meaning

/-!
# The trees a graph unfolds to

The pass-based normalizer keeps a query as a graph of numbered nodes and answers with the tree
that the graph unfolds to from its root, written out to one more level than it has nodes. That
depth is enough when the graph has no cycle. Two invariants make it so: every child that a node
names is a node of the graph (`Closed`), and a rank falls from every node to each of its
children (`Ranked`). The ranks are rational, so that a new node always fits between two others.

Under both, every node unfolds completely within that depth (`complete_of_ranked`), the tree
below a node is the node over the trees below its children (`subtree_eq`), and a fact about
nodes follows from children to parents (`Ranked.induction`). Adding nodes keeps the trees of the
nodes there were (`subtree_of_agree`). Writing a node into a slot of a parent, when the node is
ranked below the parent, keeps the trees ranked below the parent (`subtree_writeSlot_of_lt`) and
changes the others only as far as a congruence on trees carries a change of the slot up
(`related_subtree_writeSlot`).
-/

namespace Listening.Query

namespace Graph

variable {g : Graph}

/-! ### Nodes of a changed graph -/

theorem vertex_eq (g : Graph) (id : Nat) :
    g.vertex id = g.vertices[id]?.getD ⟨.term, none, []⟩ :=
  Array.getD_eq_getD_getElem?

/-- An identity beyond the nodes names a bare term. -/
theorem vertex_of_size_le {id : Nat} (beyond : g.vertices.size ≤ id) :
    g.vertex id = ⟨.term, none, []⟩ := by
  rw [vertex_eq, Array.getElem?_eq_none beyond]
  rfl

@[simp] theorem size_add (g : Graph) (vertex : Vertex) :
    (g.add vertex).1.vertices.size = g.vertices.size + 1 :=
  Array.size_push _

@[simp] theorem root_add (g : Graph) (vertex : Vertex) : (g.add vertex).1.root = g.root := rfl

@[simp] theorem add_snd (g : Graph) (vertex : Vertex) : (g.add vertex).2 = g.vertices.size := rfl

theorem vertex_add (g : Graph) (vertex : Vertex) (id : Nat) :
    (g.add vertex).1.vertex id = if id = g.vertices.size then vertex else g.vertex id := by
  simp only [vertex_eq, add, Array.getElem?_push]
  split <;> rfl

theorem vertex_add_of_lt (vertex : Vertex) {id : Nat} (lt : id < g.vertices.size) :
    (g.add vertex).1.vertex id = g.vertex id := by
  rw [vertex_add, if_neg (Nat.ne_of_lt lt)]

/-- Writes a node into a slot of a parent's list of children. -/
def writeSlot (g : Graph) (owner slot fresh : Nat) : Graph :=
  g.setChildren owner ((g.vertex owner).children.set slot fresh)

@[simp] theorem size_writeSlot (g : Graph) (owner slot fresh : Nat) :
    (g.writeSlot owner slot fresh).vertices.size = g.vertices.size :=
  Array.size_modify

@[simp] theorem root_writeSlot (g : Graph) (owner slot fresh : Nat) :
    (g.writeSlot owner slot fresh).root = g.root := rfl

theorem vertex_writeSlot_of_ne {owner slot fresh id : Nat} (ne : id ≠ owner) :
    (g.writeSlot owner slot fresh).vertex id = g.vertex id := by
  simp only [vertex_eq, writeSlot, setChildren, Array.getElem?_modify, if_neg (Ne.symm ne)]

theorem vertex_writeSlot_self (owner slot fresh : Nat) :
    (g.writeSlot owner slot fresh).vertex owner =
      { g.vertex owner with children := (g.vertex owner).children.set slot fresh } := by
  by_cases inside : owner < g.vertices.size
  · simp only [vertex_eq, writeSlot, setChildren, Array.getElem?_modify, if_pos,
      Array.getElem?_eq_getElem inside, Option.map_some, Option.getD_some]
  · have beyond := Nat.le_of_not_lt inside
    have beyond' : (g.writeSlot owner slot fresh).vertices.size ≤ owner := by simpa using beyond
    rw [vertex_of_size_le beyond', vertex_of_size_le beyond]
    rfl

theorem vertex_writeSlot (g : Graph) (owner slot fresh id : Nat) :
    (g.writeSlot owner slot fresh).vertex id =
      if id = owner then { g.vertex id with children := (g.vertex id).children.set slot fresh }
      else g.vertex id := by
  split
  · rename_i same
    subst same
    exact vertex_writeSlot_self id slot fresh
  · rename_i ne
    exact vertex_writeSlot_of_ne ne

/-- The nodes of a graph extended by a list of nodes: those of the graph, then the list. -/
theorem vertex_of_grown {g' : Graph} {more : List Vertex}
    (grown : g'.vertices.toList = g.vertices.toList ++ more) (id : Nat) :
    g'.vertex id = if id < g.vertices.size then g.vertex id
      else more.getD (id - g.vertices.size) ⟨.term, none, []⟩ := by
  rw [vertex_eq, ← Array.getElem?_toList, grown]
  split
  · rename_i inside
    rw [List.getElem?_append_left (by simpa using inside), Array.getElem?_toList, ← vertex_eq]
  · rename_i beyond
    rw [List.getElem?_append_right (by simpa using Nat.le_of_not_lt beyond),
      List.getD_eq_getElem?_getD, Array.length_toList]

theorem size_of_grown {g' : Graph} {more : List Vertex}
    (grown : g'.vertices.toList = g.vertices.toList ++ more) :
    g'.vertices.size = g.vertices.size + more.length := by
  rw [← Array.length_toList, grown, List.length_append, Array.length_toList]

theorem vertex_of_grown_add {g' : Graph} {more : List Vertex}
    (grown : g'.vertices.toList = g.vertices.toList ++ more) (index : Nat) :
    g'.vertex (g.vertices.size + index) = more.getD index ⟨.term, none, []⟩ := by
  rw [vertex_of_grown grown, if_neg (by omega), Nat.add_sub_cancel_left]

@[simp] theorem kind_writeSlot (g : Graph) (owner slot fresh id : Nat) :
    ((g.writeSlot owner slot fresh).vertex id).kind = (g.vertex id).kind := by
  rw [vertex_writeSlot]
  split <;> rfl

/-! ### Closed and ranked graphs -/

/-- Every child that a node names is a node of the graph. -/
def Closed (g : Graph) : Prop :=
  ∀ id, ∀ child ∈ (g.vertex id).children, child < g.vertices.size

/-- A rank that falls from every node to each of its children. -/
def Ranked (g : Graph) (rank : Nat → ℚ) : Prop :=
  ∀ id, ∀ child ∈ (g.vertex id).children, rank child < rank id

/-- A node with children is a node of the graph. -/
theorem lt_size_of_mem_children {id child : Nat} (member : child ∈ (g.vertex id).children) :
    id < g.vertices.size := by
  by_contra beyond
  rw [vertex_of_size_le (Nat.le_of_not_lt beyond)] at member
  cases member

theorem Closed.add (closed : g.Closed) {vertex : Vertex}
    (inside : ∀ child ∈ vertex.children, child < g.vertices.size) : (g.add vertex).1.Closed := by
  intro id child member
  rw [vertex_add] at member
  split at member
  · simpa using Nat.lt_succ_of_lt (inside child member)
  · simpa using Nat.lt_succ_of_lt (closed id child member)

/-- A node added above its children keeps a graph ranked, at any rank above theirs. -/
theorem Ranked.add (ranked : g.Ranked rank) (closed : g.Closed) {vertex : Vertex} {top : ℚ}
    (inside : ∀ child ∈ vertex.children, child < g.vertices.size)
    (above : ∀ child ∈ vertex.children, rank child < top) :
    (g.add vertex).1.Ranked (Function.update rank g.vertices.size top) := by
  intro id child member
  rw [vertex_add] at member
  have childOld : child ≠ g.vertices.size := by
    split at member
    · exact Nat.ne_of_lt (inside child member)
    · exact Nat.ne_of_lt (closed id child member)
  rw [Function.update_of_ne childOld]
  split at member
  · rename_i same
    rw [same, Function.update_self]
    exact above child member
  · rename_i other
    rw [Function.update_of_ne other]
    exact ranked id child member

theorem Closed.writeSlot (closed : g.Closed) {owner slot fresh : Nat}
    (inside : fresh < g.vertices.size) : (g.writeSlot owner slot fresh).Closed := by
  intro id child member
  rw [vertex_writeSlot] at member
  rw [size_writeSlot]
  split at member
  · rcases List.mem_or_eq_of_mem_set member with old | rfl
    · exact closed id child old
    · exact inside
  · exact closed id child member

theorem Ranked.writeSlot (ranked : g.Ranked rank) {owner slot fresh : Nat}
    (lower : rank fresh < rank owner) : (g.writeSlot owner slot fresh).Ranked rank := by
  intro id child member
  rw [vertex_writeSlot] at member
  split at member
  · rename_i same
    subst same
    rcases List.mem_or_eq_of_mem_set member with old | rfl
    · exact ranked id child old
    · exact lower
  · exact ranked id child member

/-- Extending a closed ranked graph by nodes whose children are nodes before them, ranked below
them, keeps it closed and ranked. -/
theorem Ranked.grown {g' : Graph} {more : List Vertex} (ranked : g.Ranked rank) (closed : g.Closed)
    (grown : g'.vertices.toList = g.vertices.toList ++ more) {rank' : Nat → ℚ}
    (rankAgree : ∀ id < g.vertices.size, rank' id = rank id)
    (added : ∀ (index : Nat) (inside : index < more.length), ∀ child ∈ more[index].children,
      child < g.vertices.size + index ∧ rank' child < rank' (g.vertices.size + index)) :
    g'.Closed ∧ g'.Ranked rank' := by
  have sizeEq := size_of_grown grown
  -- Each child of a node of the extended graph is a node, ranked below its parent.
  have below : ∀ id, ∀ child ∈ (g'.vertex id).children,
      child < g'.vertices.size ∧ rank' child < rank' id := by
    intro id child member
    rw [vertex_of_grown grown] at member
    split at member
    · rename_i inside
      have lt := closed id child member
      refine ⟨by omega, ?_⟩
      rw [rankAgree child lt, rankAgree id inside]
      exact ranked id child member
    · rename_i beyond
      rw [List.getD_eq_getElem?_getD] at member
      by_cases fits : id - g.vertices.size < more.length
      · rw [List.getElem?_eq_getElem fits, Option.getD_some] at member
        obtain ⟨lt, lower⟩ := added _ fits child member
        have idEq : g.vertices.size + (id - g.vertices.size) = id := by omega
        rw [idEq] at lt lower
        exact ⟨by omega, lower⟩
      · rw [List.getElem?_eq_none (by omega)] at member
        cases member
  exact ⟨fun id child member => (below id child member).1,
    fun id child member => (below id child member).2⟩

/-- The number of nodes ranked below a node. -/
def lowerCount (g : Graph) (rank : Nat → ℚ) (id : Nat) : Nat :=
  ((Finset.range g.vertices.size).filter fun other => rank other < rank id).card

theorem lowerCount_le (g : Graph) (rank : Nat → ℚ) (id : Nat) :
    lowerCount g rank id ≤ g.vertices.size :=
  (Finset.card_filter_le _ _).trans (Finset.card_range _).le

/-- A child has fewer nodes below it than its parent: the child itself is one more. -/
theorem lowerCount_lt (closed : g.Closed) (ranked : g.Ranked rank) {id child : Nat}
    (member : child ∈ (g.vertex id).children) : lowerCount g rank child < lowerCount g rank id := by
  apply Finset.card_lt_card
  rw [Finset.ssubset_iff_of_subset]
  · exact ⟨child, by simp [closed id child member, ranked id child member], by simp⟩
  · intro other
    simp only [Finset.mem_filter, Finset.mem_range]
    exact fun ⟨inside, lower⟩ => ⟨inside, lower.trans (ranked id child member)⟩

/-- Induction over the nodes of a closed ranked graph, from children to parents. -/
theorem Ranked.induction (ranked : g.Ranked rank) (closed : g.Closed) {motive : Nat → Prop}
    (step : ∀ id, (∀ child ∈ (g.vertex id).children, motive child) → motive id) (id : Nat) :
    motive id := by
  -- The induction is on the number of nodes ranked below.
  suffices bounded : ∀ count id, lowerCount g rank id < count → motive id from
    bounded _ id (Nat.lt_succ_self _)
  intro count
  induction count with
  | zero => exact fun id below => absurd below (Nat.not_lt_zero _)
  | succ count shorter =>
    intro id below
    refine step id fun child member => shorter child ?_
    have := lowerCount_lt closed ranked member
    omega

/-! ### Unfolding -/

/-- The unfolding of a node reaches the leaves within a depth. -/
def Complete (g : Graph) : Nat → Nat → Prop
  | 0, _ => False
  | depth + 1, id => ∀ child ∈ (g.vertex id).children, g.Complete depth child

theorem Complete.mono {depth more id : Nat} (complete : g.Complete depth id) (le : depth ≤ more) :
    g.Complete more id := by
  induction depth generalizing more id with
  | zero => exact complete.elim
  | succ depth shallower =>
    obtain ⟨more, rfl⟩ : ∃ rest, more = rest + 1 := ⟨more - 1, by omega⟩
    exact fun child member => shallower (complete child member) (by omega)

/-- Unfolding deeper than a node's leaves writes out the same tree. -/
theorem unfoldFrom_of_complete {depth more id : Nat} (complete : g.Complete depth id)
    (le : depth ≤ more) : g.unfoldFrom more id = g.unfoldFrom depth id := by
  induction depth generalizing more id with
  | zero => exact complete.elim
  | succ depth shallower =>
    obtain ⟨more, rfl⟩ : ∃ rest, more = rest + 1 := ⟨more - 1, by omega⟩
    simp only [unfoldFrom]
    congr 1
    exact List.map_congr_left fun child member => shallower (complete child member) (by omega)

/-- Every node of a closed ranked graph unfolds completely within one more level than the
graph has nodes. -/
theorem complete_of_ranked (closed : g.Closed) (ranked : g.Ranked rank) (id : Nat) :
    g.Complete (g.vertices.size + 1) id := by
  have counted : ∀ id, g.Complete (lowerCount g rank id + 1) id := by
    refine ranked.induction closed fun id below => ?_
    intro child member
    exact (below child member).mono (lowerCount_lt closed ranked member)
  exact (counted id).mono (Nat.succ_le_succ (lowerCount_le g rank id))

/-- The tree below a node, written out to one more level than the graph has nodes. -/
def subtree (g : Graph) (id : Nat) : Node :=
  g.unfoldFrom (g.vertices.size + 1) id

theorem unfold_eq_subtree (g : Graph) : g.unfold = g.subtree g.root := rfl

/-- Unfolding does not look at the root. -/
theorem unfoldFrom_setRoot (g : Graph) (root : Nat) :
    ∀ depth id, ({ g with root } : Graph).unfoldFrom depth id = g.unfoldFrom depth id
  | 0, _ => rfl
  | depth + 1, id => by
    simp only [unfoldFrom]
    congr 1
    exact List.map_congr_left fun child _ => unfoldFrom_setRoot g root depth child

@[simp] theorem subtree_setRoot (g : Graph) (root id : Nat) :
    ({ g with root } : Graph).subtree id = g.subtree id :=
  unfoldFrom_setRoot g root _ id

/-- In a closed ranked graph, the tree below a node is the node over the trees below its
children. -/
theorem subtree_eq (closed : g.Closed) (ranked : g.Ranked rank) (id : Nat) :
    g.subtree id =
      ⟨(g.vertex id).kind, (g.vertex id).value, (g.vertex id).children.map g.subtree⟩ := by
  have complete := complete_of_ranked closed ranked id
  simp only [subtree, unfoldFrom]
  congr 1
  exact List.map_congr_left fun child member =>
    (unfoldFrom_of_complete (complete child member) (Nat.le_succ _)).symm

/-- A graph that keeps the nodes of a closed ranked graph, and may have more, keeps the trees
below them. -/
theorem subtree_of_agree {g' : Graph} (closed : g.Closed) (ranked : g.Ranked rank)
    (grows : g.vertices.size ≤ g'.vertices.size)
    (agree : ∀ id < g.vertices.size, g'.vertex id = g.vertex id) {id : Nat}
    (inside : id < g.vertices.size) : g'.subtree id = g.subtree id := by
  have sameDepth : ∀ depth id, id < g.vertices.size →
      g'.unfoldFrom depth id = g.unfoldFrom depth id := by
    intro depth
    induction depth with
    | zero => exact fun _ _ => rfl
    | succ depth shallower =>
      intro id inside
      simp only [unfoldFrom, agree id inside]
      congr 1
      exact List.map_congr_left fun child member => shallower child (closed id child member)
  rw [subtree, sameDepth _ id inside]
  exact unfoldFrom_of_complete (complete_of_ranked closed ranked id) (by omega)

/-! ### Writing into a slot -/

section Write

variable {rank : Nat → ℚ} {owner slot fresh : Nat}

/-- Writing a node ranked below a parent keeps the tree below every node ranked below the
parent: such a node cannot reach the parent. -/
theorem subtree_writeSlot_of_lt (closed : g.Closed) (ranked : g.Ranked rank)
    (inside : fresh < g.vertices.size) (lower : rank fresh < rank owner) {id : Nat}
    (below : rank id < rank owner) : (g.writeSlot owner slot fresh).subtree id = g.subtree id := by
  have closed' : (g.writeSlot owner slot fresh).Closed := closed.writeSlot inside
  have ranked' : (g.writeSlot owner slot fresh).Ranked rank := ranked.writeSlot lower
  revert below
  refine ranked'.induction closed' (motive := fun id =>
    rank id < rank owner → (g.writeSlot owner slot fresh).subtree id = g.subtree id) ?_ id
  intro id shallower below
  have ne : id ≠ owner := fun same => lt_irrefl _ (same ▸ below)
  rw [subtree_eq closed' ranked', subtree_eq closed ranked, vertex_writeSlot_of_ne ne]
  congr 1
  refine List.map_congr_left fun child member => shallower child ?_ ?_
  · rwa [vertex_writeSlot_of_ne ne]
  · exact (ranked id child member).trans below

/-- A relation between trees that holds between two nodes of one kind and value whenever it
holds between their children, one by one. -/
def Congruent (relation : Node → Node → Prop) : Prop :=
  ∀ (kind : Kind) (value : Option String) (children children' : List Node),
    List.Forall₂ relation children children' →
      relation ⟨kind, value, children⟩ ⟨kind, value, children'⟩

/-- Two lists of trees are related position by position when one position of the second is
written over: related at the others, and at that one to the value written. -/
theorem forall₂_map_set {α : Type} {relation : Node → Node → Prop} {before after : α → Node}
    {value : α} :
    ∀ (items : List α) (position : Nat),
      (∀ item ∈ items.set position value, relation (before item) (after item)) →
      (∀ item, items[position]? = some item → relation (before item) (after value)) →
      List.Forall₂ relation (items.map before) ((items.set position value).map after)
  | [], _, _, _ => .nil
  | item :: rest, 0, same, atSlot => by
    rw [List.set_cons_zero] at same ⊢
    refine .cons (atSlot item rfl) ?_
    rw [List.forall₂_map_left_iff, List.forall₂_map_right_iff, List.forall₂_same]
    exact fun other member => same other (List.mem_cons_of_mem _ member)
  | item :: rest, position + 1, same, atSlot => by
    rw [List.set_cons_succ] at same ⊢
    refine .cons (same item List.mem_cons_self) (forall₂_map_set rest position ?_ ?_)
    · exact fun other member => same other (List.mem_cons_of_mem _ member)
    · exact fun other found => atSlot other (by simpa using found)

/-- Writing a node ranked below a parent into one of its slots relates the tree below every
node before the write to the tree after it, by any congruence that relates the tree at the slot
to the tree of the node written. -/
theorem related_subtree_writeSlot (closed : g.Closed) (ranked : g.Ranked rank)
    (inside : fresh < g.vertices.size) (lower : rank fresh < rank owner)
    {relation : Node → Node → Prop} (congruent : Congruent relation)
    (atSlot : ∀ old, (g.vertex owner).children[slot]? = some old →
      relation (g.subtree old) (g.subtree fresh))
    (id : Nat) : relation (g.subtree id) ((g.writeSlot owner slot fresh).subtree id) := by
  have closed' : (g.writeSlot owner slot fresh).Closed := closed.writeSlot inside
  have ranked' : (g.writeSlot owner slot fresh).Ranked rank := ranked.writeSlot lower
  refine ranked'.induction closed' (motive := fun id =>
    relation (g.subtree id) ((g.writeSlot owner slot fresh).subtree id)) ?_ id
  intro id shallower
  rw [subtree_eq closed ranked id, subtree_eq closed' ranked' id, vertex_writeSlot]
  split
  · rename_i same
    subst same
    refine congruent _ _ _ _ (forall₂_map_set _ _ (fun child member => shallower child ?_) ?_)
    · rw [vertex_writeSlot_self]
      exact member
    · intro old found
      rw [subtree_writeSlot_of_lt closed ranked inside lower lower]
      exact atSlot old found
  · rename_i ne
    refine congruent _ _ _ _ ?_
    rw [List.forall₂_map_left_iff, List.forall₂_map_right_iff, List.forall₂_same]
    intro child member
    apply shallower
    rwa [vertex_writeSlot_of_ne ne]

end Write

end Graph

end Listening.Query
