import Mathlib.Tactic.Ring
import Listening.Proofs.NormalForm
import Listening.Proofs.Passes

/-!
# Passes settle on a normal tree

On a query in which no conjunction stands in a conjunction, directly or through disjunctions,
normalizing in passes settles (`normalizeInPasses_settles`): every pass starts from a graph
without cycles whose walk ends, some pass changes nothing, every limit that allows the passes
before it gives the same answer, and that answer is normal.

Passes can copy trees, so no count of nodes falls from pass to pass. What falls is a weight
(`Node.weight`): a conjunction weighs twice the product of its children's weights, any other node
one more than their sum. An expansion of a conjunction at a disjunction child weighs less than the
conjunction (`Node.weight_expandAround_lt`), and a write of a lighter tree into a slot lightens
no tree (`Graph.weight_writeSlot_le`). So part-way through a pass no tree weighs more than where
the pass began, and from its first change on the tree of the root weighs less (`Graph.Lighter`,
`Graph.pass_lighter`).

A pass that changes nothing leaves the graph as it is and has found every listed conjunction
without conjunction and disjunction children (`Graph.pass_unchanged`); the walk lists every node
the answer unfolds, so the answer is normal (`Graph.unfold_normal`).

Where a conjunction does stand in a conjunction, a pass can fault: splicing shortens the parent's
list below the slot recorded for a later child (`normalizeInPasses_loses_slot`).
-/

namespace Listening.Query

/-- The product of a list of counts. -/
def product (counts : List Nat) : Nat :=
  counts.foldr (· * ·) 1

@[simp] theorem product_nil : product [] = 1 := rfl

@[simp] theorem product_cons (count : Nat) (counts : List Nat) :
    product (count :: counts) = count * product counts := rfl

@[simp] theorem product_append (xs ys : List Nat) :
    product (xs ++ ys) = product xs * product ys := by
  induction xs with
  | nil => simp
  | cons x xs ih => simp [ih, Nat.mul_assoc]

theorem one_le_product {counts : List Nat} (each : ∀ count ∈ counts, 1 ≤ count) :
    1 ≤ product counts := by
  induction counts with
  | nil => simp
  | cons count rest restPos =>
    rw [product_cons]
    exact Nat.mul_le_mul (each count List.mem_cons_self)
      (restPos fun other member => each other (List.mem_cons_of_mem count member))

section Pointwise

variable {xs ys : List Nat}

theorem total_le_of_forall₂ (le : List.Forall₂ (· ≤ ·) xs ys) : total xs ≤ total ys := by
  induction le with
  | nil => exact le_rfl
  | cons head _ rest =>
    rw [total_cons, total_cons]
    omega

theorem product_le_of_forall₂ (le : List.Forall₂ (· ≤ ·) xs ys) : product xs ≤ product ys := by
  induction le with
  | nil => exact le_rfl
  | cons head _ rest =>
    rw [product_cons, product_cons]
    exact Nat.mul_le_mul head rest

/-- A sum grows strictly when no count falls and one grows. -/
theorem total_lt_of_forall₂ (le : List.Forall₂ (· ≤ ·) xs ys) {position x y : Nat}
    (atX : xs[position]? = some x) (atY : ys[position]? = some y) (lt : x < y) :
    total xs < total ys := by
  induction le generalizing position with
  | nil => cases atX
  | @cons a b as bs head rest restLt =>
    rw [total_cons, total_cons]
    cases position with
    | zero =>
      obtain rfl := Option.some.inj atX
      obtain rfl := Option.some.inj atY
      have := total_le_of_forall₂ rest
      omega
    | succ position =>
      have := restLt atX atY
      omega

/-- A product of positive counts grows strictly when no count falls and one grows. -/
theorem product_lt_of_forall₂ (le : List.Forall₂ (· ≤ ·) xs ys) (each : ∀ x ∈ xs, 1 ≤ x)
    {position x y : Nat} (atX : xs[position]? = some x) (atY : ys[position]? = some y)
    (lt : x < y) : product xs < product ys := by
  induction le generalizing position with
  | nil => cases atX
  | @cons a b as bs head rest restLt =>
    have aPos := each a List.mem_cons_self
    have restPos : ∀ x ∈ as, 1 ≤ x := fun x member => each x (List.mem_cons_of_mem a member)
    rw [product_cons, product_cons]
    cases position with
    | zero =>
      obtain rfl := Option.some.inj atX
      obtain rfl := Option.some.inj atY
      exact Nat.mul_lt_mul_of_lt_of_le lt (product_le_of_forall₂ rest)
        (lt_of_lt_of_le (one_le_product restPos) (product_le_of_forall₂ rest))
    | succ position =>
      exact Nat.mul_lt_mul_of_le_of_lt head (restLt restPos atX atY) (lt_of_lt_of_le aPos head)

end Pointwise

namespace Node

/-- A weight that distributing lowers: a conjunction weighs twice the product of the weights of
its children, any other node one more than their sum. -/
def weight : Node → Nat
  | ⟨.and, _, children⟩ => 2 * product (children.attach.map fun ⟨child, _⟩ => child.weight)
  | ⟨_, _, children⟩ => total (children.attach.map fun ⟨child, _⟩ => child.weight) + 1

@[simp] theorem weight_and (value : Option String) (children : List Node) :
    weight ⟨.and, value, children⟩ = 2 * product (children.map weight) := by
  simp [weight]

theorem weight_of_ne_and {kind : Kind} (notConj : kind ≠ .and) (value : Option String)
    (children : List Node) : weight ⟨kind, value, children⟩ = total (children.map weight) + 1 := by
  cases kind <;> simp_all [weight]

theorem one_le_weight : ∀ tree : Node, 1 ≤ tree.weight
  | ⟨kind, value, children⟩ => by
    by_cases conj : kind = .and
    · subst conj
      have each : ∀ count ∈ children.map weight, 1 ≤ count := by
        intro count member
        obtain ⟨child, _, rfl⟩ := List.mem_map.mp member
        exact one_le_weight child
      rw [weight_and]
      have := one_le_product each
      omega
    · rw [weight_of_ne_and conj]
      omega

theorem one_le_of_mem_weights {trees : List Node} {count : Nat} (member : count ∈ trees.map weight) :
    1 ≤ count := by
  obtain ⟨tree, _, rfl⟩ := List.mem_map.mp member
  exact one_le_weight tree

theorem forall₂_weights {children children' : List Node}
    (related : List.Forall₂ (fun tree tree' => tree'.weight ≤ tree.weight) children children') :
    List.Forall₂ (· ≤ ·) (children'.map weight) (children.map weight) :=
  List.forall₂_map_left_iff.mpr (List.forall₂_map_right_iff.mpr related.flip)

/-- Two nodes of one kind whose children weigh no more, one by one, weigh no more. -/
theorem weight_le_of_forall₂ {kind : Kind} {value : Option String} {children children' : List Node}
    (related : List.Forall₂ (fun tree tree' => tree'.weight ≤ tree.weight) children children') :
    weight ⟨kind, value, children'⟩ ≤ weight ⟨kind, value, children⟩ := by
  have counts := forall₂_weights related
  by_cases conj : kind = .and
  · subst conj
    rw [weight_and, weight_and]
    exact Nat.mul_le_mul_left 2 (product_le_of_forall₂ counts)
  · rw [weight_of_ne_and conj, weight_of_ne_and conj]
    exact Nat.add_le_add_right (total_le_of_forall₂ counts) 1

theorem weight_congruent : Graph.Congruent fun tree tree' => tree'.weight ≤ tree.weight :=
  fun _ _ _ _ related => weight_le_of_forall₂ related

/-- ... and weigh less when one child weighs less. -/
theorem weight_lt_of_forall₂ {kind : Kind} {value : Option String} {children children' : List Node}
    (related : List.Forall₂ (fun tree tree' => tree'.weight ≤ tree.weight) children children')
    {position : Nat} {tree tree' : Node} (atTree : children[position]? = some tree)
    (atTree' : children'[position]? = some tree') (lighter : tree'.weight < tree.weight) :
    weight ⟨kind, value, children'⟩ < weight ⟨kind, value, children⟩ := by
  have counts := forall₂_weights related
  have atWeight : (children.map weight)[position]? = some tree.weight := by simp [atTree]
  have atWeight' : (children'.map weight)[position]? = some tree'.weight := by simp [atTree']
  by_cases conj : kind = .and
  · subst conj
    rw [weight_and, weight_and]
    have := product_lt_of_forall₂ counts (fun _ => one_le_of_mem_weights) atWeight' atWeight lighter
    omega
  · rw [weight_of_ne_and conj, weight_of_ne_and conj]
    have := total_lt_of_forall₂ counts atWeight' atWeight lighter
    omega

theorem total_map_mul (factor : Nat) (trees : List Node) (f : Node → Nat) :
    total (trees.map fun tree => factor * f tree) = factor * total (trees.map f) := by
  induction trees with
  | nil => simp
  | cons tree rest ih => simp [ih, Nat.mul_add]

/-- The expansion of a conjunction at a disjunction child weighs less than the conjunction: with
`k` twice the product of the other children's weights, it weighs `k` times the sum of the
choices' weights, plus one, and the conjunction `k` times one more than that sum. -/
theorem weight_expandAround_lt (before after choices : List Node) (value value' : Option String) :
    (expandAround before after choices).weight <
      weight ⟨.and, value, before ++ ⟨.or, value', choices⟩ :: after⟩ := by
  have beforePos : 1 ≤ product (before.map weight) := one_le_product fun _ => one_le_of_mem_weights
  have afterPos : 1 ≤ product (after.map weight) := one_le_product fun _ => one_le_of_mem_weights
  have expansion : (expandAround before after choices).weight =
      2 * product (before.map weight) * product (after.map weight) * total (choices.map weight)
        + 1 := by
    rw [expandAround, compound, weight_of_ne_and (by decide), List.map_map, ← total_map_mul]
    congr 2
    refine List.map_congr_left fun choice _ => ?_
    rw [Function.comp_apply, compound, weight_and, List.map_append, List.map_cons,
      product_append, product_cons, Nat.mul_comm choice.weight, ← Nat.mul_assoc, ← Nat.mul_assoc]
  have conjunction : weight ⟨.and, value, before ++ ⟨.or, value', choices⟩ :: after⟩ =
      2 * product (before.map weight) * product (after.map weight) * total (choices.map weight)
        + 2 * product (before.map weight) * product (after.map weight) := by
    rw [weight_and, List.map_append, List.map_cons, product_append, product_cons,
      weight_of_ne_and (by decide : Kind.or ≠ .and)]
    ring
  have factorLarge : 2 ≤ 2 * product (before.map weight) * product (after.map weight) := by
    have := Nat.mul_le_mul beforePos afterPos
    rw [Nat.mul_assoc]
    omega
  rw [expansion, conjunction]
  omega

end Node

namespace Graph

variable {g : Graph} {rank : Nat → ℚ}

/-! ### Weights in a graph -/

/-- An expansion over the split of a conjunction weighs less than the conjunction. -/
theorem IsExpansion.weight_lt (closed : g.Closed) (ranked : g.Ranked rank) {fresh id chosen : Nat}
    {before after choices : List Nat} (expansion : g.IsExpansion fresh before after choices)
    (split : g.SplitsAt id before chosen after choices) :
    (g.subtree fresh).weight < (g.subtree id).weight := by
  rw [expansion.subtree_eq closed ranked, Graph.subtree_eq closed ranked id, split.conj,
    split.children, List.map_append, List.map_cons, Graph.subtree_eq closed ranked chosen,
    split.disj, split.choices]
  exact Node.weight_expandAround_lt _ _ _ _ _

section Write

variable {owner slot fresh : Nat} (closed : g.Closed) (ranked : g.Ranked rank)
  (inside : fresh < g.vertices.size) (lower : rank fresh < rank owner)
  (atSlot : ∀ old, (g.vertex owner).children[slot]? = some old →
    (g.subtree fresh).weight ≤ (g.subtree old).weight)
include closed ranked inside lower atSlot

/-- Writing a node ranked below a parent into a slot whose tree weighs no less lightens no
tree. -/
theorem weight_writeSlot_le (id : Nat) :
    ((g.writeSlot owner slot fresh).subtree id).weight ≤ (g.subtree id).weight :=
  related_subtree_writeSlot closed ranked inside lower Node.weight_congruent atSlot id

/-- Writing one that weighs less than the slot's tree lightens the tree of the parent. -/
theorem weight_writeSlot_owner_lt {old : Nat} (atOld : (g.vertex owner).children[slot]? = some old)
    (lighter : (g.subtree fresh).weight < (g.subtree old).weight) :
    ((g.writeSlot owner slot fresh).subtree owner).weight < (g.subtree owner).weight := by
  have closed' : (g.writeSlot owner slot fresh).Closed := closed.writeSlot inside
  have ranked' : (g.writeSlot owner slot fresh).Ranked rank := ranked.writeSlot lower
  have freshSame : (g.writeSlot owner slot fresh).subtree fresh = g.subtree fresh :=
    subtree_writeSlot_of_lt closed ranked inside lower lower
  have slotLt : slot < (g.vertex owner).children.length := (List.getElem?_eq_some_iff.mp atOld).1
  -- the slot is where the lists of trees differ, by the lighter tree
  have atOldTree : ((g.vertex owner).children.map g.subtree)[slot]? = some (g.subtree old) := by
    simp [atOld]
  have atFreshTree : (((g.vertex owner).children.set slot fresh).map
      (g.writeSlot owner slot fresh).subtree)[slot]? =
        some ((g.writeSlot owner slot fresh).subtree fresh) := by
    simp [slotLt]
  rw [subtree_eq closed' ranked' owner, subtree_eq closed ranked owner, vertex_writeSlot_self]
  exact Node.weight_lt_of_forall₂ (forall₂_map_set _ _
    (fun child _ => weight_writeSlot_le closed ranked inside lower atSlot child)
    (fun other atOther => freshSame ▸ atSlot other atOther)) atOldTree atFreshTree
    (freshSame ▸ lighter)

end Write

/-- A change of a graph that lightens the tree of a listed node, lightens no tree of a node, and
keeps the root and every other node, lightens the tree of the root: the walk reaches the node
through parents whose other children it keeps. -/
theorem weight_root_lt {g' : Graph} {rank' : Nat → ℚ} (closed : g.Closed) (ranked : g.Ranked rank)
    (closed' : g'.Closed) (ranked' : g'.Ranked rank')
    (rootSame : g'.root = g.root) {changed : Nat}
    (same : ∀ id < g.vertices.size, id ≠ changed → g'.vertex id = g.vertex id)
    (le : ∀ id < g.vertices.size, (g'.subtree id).weight ≤ (g.subtree id).weight)
    (listed : changed ∈ g.walk) (lighter : (g'.subtree changed).weight < (g.subtree changed).weight) :
    (g'.subtree g'.root).weight < (g.subtree g.root).weight := by
  -- every listed node passes a lighter tree of its own up to the root
  refine walkFrom_inherits (motive := fun id => (g'.subtree id).weight < (g.subtree id).weight →
      (g'.subtree g'.root).weight < (g.subtree g.root).weight)
    (fun id passesUp child member => ?_) (fun first member => ?_) changed listed lighter
  · intro lighterChild
    by_cases here : id = changed
    · subst here
      exact passesUp lighter
    apply passesUp
    obtain ⟨position, atChild⟩ := List.mem_iff_getElem?.mp member
    have atTree : ((g.vertex id).children.map g.subtree)[position]? = some (g.subtree child) := by
      simp [atChild]
    have atTree' : ((g.vertex id).children.map g'.subtree)[position]? = some (g'.subtree child) := by
      simp [atChild]
    rw [subtree_eq closed' ranked' id, subtree_eq closed ranked id,
      same id (lt_size_of_mem_children member) here]
    refine Node.weight_lt_of_forall₂ ?_ atTree atTree' lighterChild
    rw [List.forall₂_map_left_iff, List.forall₂_map_right_iff, List.forall₂_same]
    exact fun other otherMember => le other (closed id other otherMember)
  · intro lighterRoot
    rw [List.mem_singleton.mp member] at lighterRoot
    rwa [rootSame]

/-! ### A pass that changes nothing -/

/-- A conjunction without conjunction and disjunction children, or a node of another kind: a
node that a visit leaves as it is. -/
def Flat (g : Graph) (id : Nat) : Prop :=
  (g.vertex id).kind = .and →
    ∀ child ∈ (g.vertex id).children, (g.vertex child).kind ≠ .and ∧ (g.vertex child).kind ≠ .or

/-- Splicing that reports nothing spliced leaves the graph as it is, at a node without
conjunction children. -/
theorem spliceAt_of_unspliced {id : Nat} {g' : Graph} (unspliced : g.spliceAt id = (g', false)) :
    g' = g ∧ ((g.vertex id).kind = .and →
      ∀ child ∈ (g.vertex id).children, (g.vertex child).kind ≠ .and) := by
  simp only [spliceAt] at unspliced
  split at unspliced
  · simp at unspliced
  · rename_i noSplice
    refine ⟨(Prod.mk.inj unspliced).1.symm, fun conj child member isConj => noSplice ?_⟩
    simp only [Bool.and_eq_true, decide_eq_true_eq, List.any_eq_true]
    exact ⟨conj, child, member, isConj⟩

/-- A visit that reports no change leaves the graph as it is, found no change before it, and
visited a flat node. -/
theorem visit_unchanged {table : Array (Option (Nat × Nat))} {g' : Graph} {changed : Bool}
    {id : Nat} (visited : visit table (g, changed) id = .ok (g', false)) :
    changed = false ∧ g' = g ∧ g.Flat id := by
  by_cases conj : (g.vertex id).kind = .and
  swap
  · simp only [visit, conj, if_false, Except.ok.injEq, Prod.mk.injEq] at visited
    obtain ⟨rfl, rfl⟩ := visited
    exact ⟨rfl, rfl, fun isConj => absurd isConj conj⟩
  cases splice : g.spliceAt id with
  | mk spliced didSplice =>
    simp only [visit, conj, if_true, splice] at visited
    cases found : spliced.firstOr? id with
    | some position =>
      simp only [found] at visited
      split at visited <;> simp at visited
    | none =>
      simp only [found, Except.ok.injEq, Prod.mk.injEq, Bool.or_eq_false_iff] at visited
      obtain ⟨rfl, ⟨rfl, rfl⟩⟩ := visited
      obtain ⟨rfl, noConj⟩ := spliceAt_of_unspliced splice
      refine ⟨rfl, rfl, fun _ child member => ⟨noConj conj child member, ?_⟩⟩
      have noDisj := List.findIdx?_eq_none_iff.mp found child member
      simpa using noDisj

/-- Visits that report no change leave the graph as it is, and visited flat nodes only. -/
theorem foldlM_visit_unchanged {table : Array (Option (Nat × Nat))} :
    ∀ (items : List Nat) {g g' : Graph} {changed : Bool},
      items.foldlM (visit table) (g, changed) = .ok (g', false) →
        changed = false ∧ g' = g ∧ ∀ id ∈ items, g.Flat id
  | [], g, g', changed, folded => by
    simp only [List.foldlM_nil, pure, Except.pure, Except.ok.injEq, Prod.mk.injEq] at folded
    obtain ⟨rfl, rfl⟩ := folded
    exact ⟨rfl, rfl, fun _ member => absurd member List.not_mem_nil⟩
  | id :: rest, g, g', changed, folded => by
    rw [List.foldlM_cons] at folded
    cases visited : visit table (g, changed) id with
    | error fault =>
      rw [visited] at folded
      cases folded
    | ok next =>
      obtain ⟨next, changedNext⟩ := next
      rw [visited] at folded
      obtain ⟨rfl, rfl, restFlat⟩ := foldlM_visit_unchanged rest folded
      obtain ⟨rfl, rfl, flat⟩ := visit_unchanged visited
      refine ⟨rfl, rfl, fun other member => ?_⟩
      rcases List.mem_cons.mp member with rfl | later
      · exact flat
      · exact restFlat other later

/-- A pass that reports no change leaves the graph as it is, and every node it listed is flat. -/
theorem pass_unchanged {g' : Graph} (passed : g.pass = .ok (g', false)) :
    g' = g ∧ ∀ id ∈ g.walk, g.Flat id := by
  obtain ⟨-, same, flat⟩ := foldlM_visit_unchanged g.walk passed
  exact ⟨same, flat⟩

/-! ### The walk and the unfolded tree -/

/-- The level after a level of a walk: the children of its nodes. -/
def below (g : Graph) (level : List Nat) : List Nat :=
  level.flatMap fun id => (g.vertex id).children

theorem walkFrom_succ (depth : Nat) (level : List Nat) :
    g.walkFrom (depth + 1) level =
      if level.isEmpty then [] else level ++ g.walkFrom depth (g.below level) := rfl

/-- A walk that lists only flat nodes unfolds every node of its first level to a normal tree. -/
theorem unfoldFrom_normal : ∀ (depth : Nat) {level : List Nat},
    (∀ id ∈ g.walkFrom depth level, g.Flat id) → ∀ id ∈ level, (g.unfoldFrom depth id).Normal
  | 0, _, _, _, _ => by simp [unfoldFrom]
  | depth + 1, level, flat, id, member => by
    have nonempty : level.isEmpty = false := List.isEmpty_eq_false_iff.mpr (List.ne_nil_of_mem member)
    have listed : ∀ other ∈ level ++ g.walkFrom depth (g.below level), g.Flat other := by
      rwa [walkFrom_succ, nonempty, if_neg Bool.false_ne_true] at flat
    simp only [unfoldFrom, Node.normal_mk]
    refine ⟨fun conj tree treeMember => ?_, fun tree treeMember => ?_⟩
    · obtain ⟨child, childMember, rfl⟩ := List.mem_map.mp treeMember
      have childFlat := listed id (List.mem_append_left _ member) conj child childMember
      cases depth with
      | zero => simp [unfoldFrom]
      | succ depth => simpa only [unfoldFrom] using childFlat
    · obtain ⟨child, childMember, rfl⟩ := List.mem_map.mp treeMember
      exact unfoldFrom_normal depth (fun other later => listed other (List.mem_append_right _ later))
        child (List.mem_flatMap.mpr ⟨id, member, childMember⟩)

/-- A graph whose walk lists only flat nodes unfolds to a normal tree. -/
theorem unfold_normal (flat : ∀ id ∈ g.walk, g.Flat id) : g.unfold.Normal :=
  unfoldFrom_normal _ flat _ (List.mem_singleton_self _)

/-- The walk has ended: the level after its last one is empty. -/
def WalkEnds (g : Graph) : Prop :=
  g.below^[g.vertices.size + 1] [g.root] = []

/-- The walk of a closed graph without cycles ends: each level lowers the number of nodes ranked
below its nodes. -/
theorem walkEnds_of_ranked (closed : g.Closed) (ranked : g.Ranked rank) : g.WalkEnds := by
  have deeper : ∀ depth, ∀ id ∈ g.below^[depth] [g.root],
      depth + lowerCount g rank id ≤ lowerCount g rank g.root := by
    intro depth
    induction depth with
    | zero =>
      intro id member
      rw [Function.iterate_zero_apply, List.mem_singleton] at member
      subst member
      omega
    | succ depth shallower =>
      intro id member
      rw [Function.iterate_succ_apply'] at member
      obtain ⟨parent, parentMember, childMember⟩ := List.mem_flatMap.mp member
      have := shallower parent parentMember
      have := lowerCount_lt closed ranked childMember
      omega
  refine List.eq_nil_iff_forall_not_mem.mpr fun id member => ?_
  have := deeper _ id member
  have := lowerCount_le g rank g.root
  omega

/-! ### Each pass lightens the tree -/

/-- Part-way through a pass from `start`: no tree of a node the pass found weighs more than at
the start; before the first change the graph is the start, and from then on the tree of the root
weighs less. -/
structure Lighter (start g : Graph) (changed : Bool) : Prop where
  unchanged : changed = false → g = start
  old : ∀ id < start.vertices.size, (g.subtree id).weight ≤ (start.subtree id).weight
  lighter : changed = true → (g.subtree g.root).weight < (start.subtree start.root).weight

theorem Lighter.initial (start : Graph) : Lighter start start false :=
  ⟨fun _ => rfl, fun _ _ => le_rfl, fun isTrue => absurd isTrue Bool.false_ne_true⟩

section Visit

variable {start : Graph} (sound : start.Sound) (ranked : start.Ranked rank)
  (midway : Midway start rank (start.parents start.walk) g) {id : Nat}
  (listed : id ∈ start.walk) (conj : (start.vertex id).kind = .and)
include sound ranked midway listed conj

/-- Part-way through a pass, a listed conjunction splits at the disjunction child the pass found
first, over the lists the pass found. -/
theorem Midway.splitsAt_listed {position : Nat} (found : start.firstOr? id = some position) :
    g.SplitsAt id ((start.vertex id).children.take position)
      ((start.vertex id).children.getD position 0) ((start.vertex id).children.drop (position + 1))
      (start.vertex ((start.vertex id).children.getD position 0)).children := by
  have closed := sound.closed
  obtain ⟨steadyId, -⟩ := midway.listed_conj sound listed conj
  have free := free_of_mem_walk closed ranked sound.unnested listed conj
  have split := splitsAt_of_firstOr conj found
  have chosenMember := getD_mem_children (lt_length_of_firstOr found)
  -- the disjunction child has no conjunction child, so the pass leaves it as it found it
  have steadyChosen := midway.steady _ (closed id _ chosenMember)
    (.inr ((conj_children_of_free closed ranked free conj chosenMember).2 split.disj))
  exact split.of_agree steadyId steadyChosen

/-- An expansion of a listed conjunction part-way through a pass weighs less than the
conjunction. -/
theorem Midway.weight_expansion_lt {position : Nat} (found : start.firstOr? id = some position)
    {g' : Graph} {rank' rank'' : Nat → ℚ} {fresh : Nat} {top : ℚ}
    (expanded : ExpandedAt start g g' rank' rank'' id fresh top) :
    (g'.subtree fresh).weight < (g'.subtree id).weight := by
  obtain ⟨position', found', expansion⟩ := expanded.expands
  obtain rfl := Option.some.inj (found'.symm.trans found)
  have split := midway.splitsAt_listed sound ranked listed conj found
  have idLt := lt_size_of_mem_walk sound.closed sound.root_lt listed
  have chosenMember : (start.vertex id).children.getD position' 0 ∈ (g.vertex id).children := by
    rw [split.children]
    exact List.mem_append_right _ List.mem_cons_self
  refine expansion.weight_lt expanded.grows.closed expanded.grows.ranked (split.of_agree ?_ ?_)
  · exact expanded.grows.agree id (lt_of_lt_of_le idLt midway.size_le)
  · exact expanded.grows.agree _ (midway.closed id _ chosenMember)

variable {changed : Bool} (lighter : Lighter start g changed)
include lighter

/-- Expanding the conjunction the walk reached first, the root, lightens the tree of the
root. -/
theorem Midway.lighter_expandRoot {position : Nat} (found : start.firstOr? id = some position)
    (unrecorded : (start.parents start.walk).getD id none = none) :
    Lighter start { (g.expandAt id position).1 with root := (g.expandAt id position).2 } true := by
  have idLt := lt_size_of_mem_walk sound.closed sound.root_lt listed
  obtain ⟨rank', rankedG, -⟩ := midway.ranked
  obtain ⟨rank'', expanded⟩ :=
    midway.expandAt_listed sound ranked listed conj found rankedG (lt_add_one (rank' id))
  have lighterFresh := midway.weight_expansion_lt sound ranked listed conj found expanded
  generalize g.expandAt id position = result at expanded lighterFresh ⊢
  obtain ⟨g₁, fresh⟩ := result
  dsimp only at expanded lighterFresh ⊢
  have kept : ∀ node < start.vertices.size, g₁.subtree node = g.subtree node :=
    fun node lt => expanded.grows.subtree midway.closed rankedG (lt_of_lt_of_le lt midway.size_le)
  refine ⟨nofun, fun node lt => ?_, fun _ => ?_⟩
  · rw [subtree_setRoot, kept node lt]
    exact lighter.old node lt
  · simp only [subtree_setRoot]
    calc (g₁.subtree fresh).weight
        < (g₁.subtree id).weight := lighterFresh
      _ = (g.subtree id).weight := by rw [kept id idLt]
      _ ≤ (start.subtree id).weight := lighter.old id idLt
      _ = (start.subtree start.root).weight := by
        rw [eq_root_of_unrecorded listed idLt unrecorded]

/-- Writing the expansion into the slot the walk recorded lightens no tree; when it is the first
change of the pass, it lightens the tree of the parent and through it the tree of the root. -/
theorem Midway.lighter_expandIntoSlot {position : Nat} (found : start.firstOr? id = some position)
    {owner slot : Nat} (entry : (start.parents start.walk).getD id none = some (owner, slot)) :
    Lighter start ((g.expandAt id position).1.writeSlot owner slot (g.expandAt id position).2)
      true := by
  obtain ⟨rank', rank'', rankedG, agree, expanded, lower⟩ :=
    midway.expandBelowOwner sound ranked listed conj found entry
  have grown := midway.grow rankedG agree expanded.grows
  have lighterFresh := midway.weight_expansion_lt sound ranked listed conj found expanded
  generalize g.expandAt id position = result at expanded grown lower lighterFresh ⊢
  obtain ⟨g₁, fresh⟩ := result
  dsimp only at expanded grown lower lighterFresh ⊢
  have closed₁ := expanded.grows.closed
  have ranked₁ := expanded.grows.ranked
  have kept : ∀ node < g.vertices.size, g₁.subtree node = g.subtree node :=
    fun node lt => expanded.grows.subtree midway.closed rankedG lt
  -- the slot holds the conjunction or an expansion of it, neither lighter than the new one
  have atSlot : ∀ old, (g₁.vertex owner).children[slot]? = some old →
      (g₁.subtree fresh).weight ≤ (g₁.subtree old).weight := by
    intro old atOld
    obtain ⟨current, atCurrent, either⟩ := grown.slots id owner slot entry conj
    obtain rfl := Option.some.inj (atOld.symm.trans atCurrent)
    rcases either with rfl | ⟨-, expansion⟩
    · exact lighterFresh.le
    · rw [expanded.expands.subtree_eq closed₁ ranked₁ expansion]
  have le := weight_writeSlot_le closed₁ ranked₁ expanded.fresh_lt lower atSlot
  refine ⟨nofun, fun node lt => ?_, fun _ => ?_⟩
  · calc _ ≤ (g₁.subtree node).weight := le node
      _ = (g.subtree node).weight := by rw [kept node (lt_of_lt_of_le lt midway.size_le)]
      _ ≤ (start.subtree node).weight := lighter.old node lt
  cases changed with
  | true =>
    calc _ ≤ (g₁.subtree g₁.root).weight := le _
      _ = (g.subtree g.root).weight := by rw [expanded.grows.root, kept g.root midway.root_lt]
      _ < (start.subtree start.root).weight := lighter.lighter rfl
  | false =>
    -- the first change of the pass, made to the graph the pass started from
    have same : g = start := lighter.unchanged rfl
    subst same
    obtain ⟨ownerListed, atOwner⟩ := parents_eq_some entry
    have ownerLt := lt_size_of_mem_children (List.mem_of_getElem? atOwner)
    have atOld : (g₁.vertex owner).children[slot]? = some id := by
      rw [expanded.grows.agree owner ownerLt]
      exact atOwner
    have ownerLighter :=
      weight_writeSlot_owner_lt closed₁ ranked₁ expanded.fresh_lt lower atSlot atOld lighterFresh
    rw [kept owner ownerLt] at ownerLighter
    refine weight_root_lt sound.closed ranked (closed₁.writeSlot expanded.fresh_lt)
      (ranked₁.writeSlot lower) expanded.grows.root (fun node lt apart => ?_)
      (fun node lt => ?_) ownerListed ownerLighter
    · rw [vertex_writeSlot_of_ne apart, expanded.grows.agree node lt]
    · rw [← kept node lt]
      exact le node

end Visit

section Pass

variable {start : Graph} (sound : start.Sound) (ranked : start.Ranked rank)
include sound ranked

/-- A visit keeps a pass lighter. -/
theorem visit_lighter (midway : Midway start rank (start.parents start.walk) g) {changed : Bool}
    (lighter : Lighter start g changed) {id : Nat} (listed : id ∈ start.walk) {g' : Graph}
    {changed' : Bool} (visited : visit (start.parents start.walk) (g, changed) id = .ok (g', changed')) :
    Lighter start g' changed' := by
  by_cases conj : (g.vertex id).kind = .and
  swap
  · simp only [visit, conj, if_false, Except.ok.injEq, Prod.mk.injEq] at visited
    obtain ⟨rfl, rfl⟩ := visited
    exact lighter
  have idLt := lt_size_of_mem_walk sound.closed sound.root_lt listed
  have startConj : (start.vertex id).kind = .and := (midway.kinds id idLt).symm.trans conj
  have noSplice := midway.spliceAt_listed sound ranked listed startConj
  cases found : g.firstOr? id with
  | none =>
    simp only [visit, conj, if_true, noSplice, found, Bool.or_false, Except.ok.injEq,
      Prod.mk.injEq] at visited
    obtain ⟨rfl, rfl⟩ := visited
    exact lighter
  | some position =>
    have foundStart : start.firstOr? id = some position :=
      midway.firstOr?_listed sound listed startConj ▸ found
    cases entry : (start.parents start.walk).getD id none with
    | none =>
      simp [visit, conj, noSplice, found, entry, replace] at visited
      obtain ⟨rfl, rfl⟩ := visited
      exact midway.lighter_expandRoot sound ranked listed startConj lighter foundStart entry
    | some recordedAt =>
      obtain ⟨owner, slot⟩ := recordedAt
      obtain ⟨slotLt, -⟩ := midway.expandIntoSlot sound ranked listed startConj foundStart entry
      simp [visit, conj, noSplice, found, entry, replace_some slotLt] at visited
      obtain ⟨rfl, rfl⟩ := visited
      exact midway.lighter_expandIntoSlot sound ranked listed startConj lighter foundStart entry

/-- The visits of a pass keep it lighter. -/
theorem foldlM_visit_lighter : ∀ (items : List Nat), (∀ id ∈ items, id ∈ start.walk) →
    ∀ {g : Graph} {changed : Bool}, Midway start rank (start.parents start.walk) g →
      Lighter start g changed → ∀ {g' : Graph} {changed' : Bool},
        items.foldlM (visit (start.parents start.walk)) (g, changed) = .ok (g', changed') →
          Lighter start g' changed'
  | [], _, g, changed, _, lighter, g', changed', folded => by
    simp only [List.foldlM_nil, pure, Except.pure, Except.ok.injEq, Prod.mk.injEq] at folded
    obtain ⟨rfl, rfl⟩ := folded
    exact lighter
  | id :: rest, listed, g, changed, midway, lighter, g', changed', folded => by
    obtain ⟨next, changedNext, visited, midwayNext⟩ :=
      visit_midway sound ranked midway (listed id List.mem_cons_self) changed
    rw [List.foldlM_cons, visited] at folded
    exact foldlM_visit_lighter rest (fun other member => listed other (List.mem_cons_of_mem _ member))
      midwayNext (visit_lighter sound ranked midway lighter (listed id List.mem_cons_self) visited)
      folded

end Pass

/-- A pass from a sound graph that changes something lightens the tree of the root, and one that
changes nothing leaves the graph as it is. -/
theorem pass_lighter (sound : g.Sound) {g' : Graph} {changed : Bool}
    (passed : g.pass = .ok (g', changed)) : Lighter g g' changed := by
  obtain ⟨rank, ranked⟩ := sound.ranked
  exact foldlM_visit_lighter sound ranked g.walk (fun _ listed => listed)
    (Midway.initial sound ranked g.walk) (Lighter.initial g) passed

/-! ### Passes settle -/

/-- Passes from `g` settle at `final` after `passes` of them: each starts from a graph without
cycles whose walk ends, the last changes nothing and leaves `final`, and each one before it
changes something. -/
inductive Settles : Graph → Nat → Graph → Prop
  | still {g g' : Graph} (acyclic : ∃ rank, g.Ranked rank) (ends : g.WalkEnds)
      (passed : g.pass = .ok (g', false)) : Settles g 1 g'
  | moved {g g' final : Graph} {passes : Nat} (acyclic : ∃ rank, g.Ranked rank)
      (ends : g.WalkEnds) (passed : g.pass = .ok (g', true)) (rest : Settles g' passes final) :
      Settles g (passes + 1) final

/-- Passes that settle give their last graph to every limit that allows them all. -/
theorem Settles.settle {final : Graph} {passes : Nat} (settles : g.Settles passes final) :
    ∀ limit, passes ≤ limit → g.settle limit = .ok final := by
  induction settles with
  | still _ _ passed =>
    rintro (_ | limit) enough
    · omega
    · rw [Graph.settle, passed]
  | moved _ _ passed _ later =>
    rintro (_ | limit) enough
    · omega
    · rw [Graph.settle, passed]
      exact later limit (by omega)

/-- Passes from a sound graph settle at a graph that unfolds to a normal tree. The recursion is
on the weight of the tree of the root, which every pass that changes something lowers. -/
theorem settles_of_sound {g : Graph} (sound : g.Sound) :
    ∃ passes final, g.Settles passes final ∧ final.unfold.Normal := by
  obtain ⟨rank, ranked⟩ := sound.ranked
  have ends := walkEnds_of_ranked sound.closed ranked
  obtain ⟨g', changed, passed, sound', -⟩ := pass_spec sound
  cases changed with
  | false =>
    obtain ⟨same, flat⟩ := pass_unchanged passed
    subst same
    exact ⟨1, g', .still ⟨rank, ranked⟩ ends passed, unfold_normal flat⟩
  | true =>
    -- the recursive call is on the lighter tree this pass left
    have lighter := (pass_lighter sound passed).lighter rfl
    obtain ⟨passes, final, settles, normal⟩ := settles_of_sound sound'
    exact ⟨passes + 1, final, .moved ⟨rank, ranked⟩ ends passed settles, normal⟩
termination_by (g.subtree g.root).weight

end Graph

/-- Normalizing in passes a query in which no conjunction stands in a conjunction, directly or
through disjunctions, never faults, whatever the limit, and converges: every pass starts from a
graph without cycles whose walk ends, and there is a number of passes from which on every limit
gives the same answer, after a pass that changed nothing. The answer has no conjunction with a
conjunction or disjunction child. -/
theorem normalizeInPasses_settles {tree : Node} (unnested : tree.Unnested .free) :
    (∀ limit, ∃ settled, normalizeInPasses tree limit = .ok settled) ∧
      ∃ passes final, (Graph.ofNode tree).Settles passes final ∧
        (∀ limit, passes ≤ limit → normalizeInPasses tree limit = .ok final.unfold) ∧
          final.unfold.Normal := by
  obtain ⟨sound, -⟩ := Graph.ofNode_spec unnested
  obtain ⟨passes, final, settles, normal⟩ := Graph.settles_of_sound sound
  refine ⟨fun limit => ?_, passes, final, settles, fun limit enough => ?_, normal⟩
  · obtain ⟨settled, settledEq, -⟩ := Graph.settle_spec limit sound
    exact ⟨settled.unfold, by rw [normalizeInPasses, settledEq]; rfl⟩
  · rw [normalizeInPasses, settles.settle limit enough]
    rfl

theorem normalizeInPasses_settles_guarded :
    guardedQuery.Unnested .free ∧ (∀ limit, ∃ settled, normalizeInPasses guardedQuery limit = .ok settled) ∧
      ∃ passes final, (Graph.ofNode guardedQuery).Settles passes final ∧
        (∀ limit, passes ≤ limit → normalizeInPasses guardedQuery limit = .ok final.unfold) ∧
          final.unfold.Normal := by
  have unnested : guardedQuery.Unnested .free := by
    simp [guardedQuery, Node.compound, Node.term, Place.below]
  exact ⟨unnested, normalizeInPasses_settles unnested⟩

/-- `AND(AND(), AND(AND(a OR b)))` as a tree: an empty conjunction beside one that holds a
conjunction over a disjunction. -/
def emptiedQuery : Node :=
  ⟨.and, none, [⟨.and, none, []⟩,
    ⟨.and, none, [⟨.and, none, [⟨.or, none, [.term "a", .term "b"]⟩]⟩]⟩]⟩

/-- The first pass splices the root to the single child `AND(a OR b)`, then splices its former
second child to that child and writes its expansion into slot 1 of the root, recorded before the
root was spliced: the root has no slot 1 any more, and the pass faults. -/
theorem normalizeInPasses_loses_slot : normalizeInPasses emptiedQuery 1000 = .error .noSlotAt := by
  rfl

end Listening.Query
