import Mathlib.Data.Prod.Lex
import Mathlib.Order.WellFounded
import Listening.Proofs.NormalForm

/-!
# The recursion of the normal form terminates

Computed as a recursive function, the normal form rewrites the children of a node first. A
conjunction then splices its rewritten children and, at the first disjunction among them,
rewrites one new conjunction per choice (the children before, the choice, the children after)
and then rewrites the disjunction of the results. One unfolding of that recursion is
`callStep`; `normalize` is a solution of it (`normalize_callStep`) and the only one
(`eq_normalize_of_callStep`).

The new conjunctions and the new disjunction are no subtrees of the node and may be far
larger, so the recursion is not structural. It terminates because every call it makes
(`Calls`) lowers a measure (`rewriteMeasure`) in the lexicographic order on pairs of numbers
(`rewrite_recursion_terminates`):

* first, the number of subtrees that are not normal (`flaws`). A child has fewer than a parent
  that is not normal. A new conjunction has only normal children, so at most one flaw, itself;
  the new disjunction, over normal trees, has none;
* then, for a tree that is not normal, the weight of the disjunctions it reaches through
  conjunctions, and for a normal tree its size (`pending`). A node with normal children that
  distributes has one flaw, as each of its new conjunctions may have, and each new conjunction
  weighs less: it holds a choice where the disjunction stood.
-/

namespace Listening.Query

namespace Node

/-- The number of subtrees of a tree, itself included, that are not normal. -/
def flaws : Node → Nat
  | ⟨kind, value, children⟩ =>
    (if Normal ⟨kind, value, children⟩ then 0 else 1) +
      total (children.attach.map fun ⟨child, _⟩ => child.flaws)

theorem total_map_eq_zero {nodes : List Node} {f : Node → Nat}
    (zero : ∀ node ∈ nodes, f node = 0) : total (nodes.map f) = 0 := by
  induction nodes with
  | nil => rfl
  | cons node rest restZero =>
    rw [List.map_cons, total_cons, zero node List.mem_cons_self,
      restZero fun other member => zero other (List.mem_cons_of_mem node member)]

@[simp] theorem flaws_mk (kind : Kind) (value : Option String) (children : List Node) :
    flaws ⟨kind, value, children⟩ =
      (if Normal ⟨kind, value, children⟩ then 0 else 1) + total (children.map flaws) := by
  simp [flaws]

/-- A normal tree has no flaw. -/
theorem flaws_of_normal {tree : Node} (normal : tree.Normal) : tree.flaws = 0 := by
  induction normal with
  | @node kind value children flat below none =>
    rw [flaws_mk, if_pos (Normal.node flat below), total_map_eq_zero none]

/-- A tree that is not normal has a flaw. -/
theorem one_le_flaws {tree : Node} (notNormal : ¬ tree.Normal) : 1 ≤ tree.flaws := by
  obtain ⟨kind, value, children⟩ := tree
  rw [flaws_mk, if_neg notNormal]
  omega

/-- A child that is not normal has fewer flaws than its parent, which is not normal either. -/
theorem flaws_lt_of_mem {kind : Kind} {value : Option String} {children : List Node}
    {child : Node} (member : child ∈ children) (notNormal : ¬ child.Normal) :
    child.flaws < flaws ⟨kind, value, children⟩ := by
  have parentNot : ¬ Normal ⟨kind, value, children⟩ :=
    fun normal => notNormal ((normal_mk.mp normal).2 child member)
  have inTotal := le_total_map_of_mem (f := flaws) member
  rw [flaws_mk, if_neg parentNot]
  omega

/-- A node with normal children has at most one flaw, itself. -/
theorem flaws_le_one {kind : Kind} {value : Option String} {children : List Node}
    (each : ∀ child ∈ children, child.Normal) : flaws ⟨kind, value, children⟩ ≤ 1 := by
  rw [flaws_mk, total_map_eq_zero fun child member => flaws_of_normal (each child member)]
  split <;> omega

/-- What is left to do below a tree: the weight of the disjunctions it reaches through
conjunctions while it is not normal, its size once it is. -/
def pending (tree : Node) : Nat :=
  if tree.Normal then tree.size else tree.orWeight

end Node

/-- The measure that every call of the recursion lowers: the flaws of a tree, then what is left
to do below it. -/
def rewriteMeasure (tree : Node) : ℕ ×ₗ ℕ :=
  toLex (tree.flaws, tree.pending)

/-- One unfolding of the recursion that computes the normal form, over a function `rewrite` for
its recursive calls: the children are rewritten first; a conjunction then splices them and, at
the first disjunction among them, rewrites one conjunction per choice and then the disjunction
of the results. -/
def callStep (rewrite : Node → Node) (node : Node) : Node :=
  let children := node.children.map rewrite
  if node.kind = .and then
    match splitAtFirstOr (spliceConj children) with
    | none => ⟨.and, node.value, spliceConj children⟩
    | some (before, found, after) =>
      rewrite (.compound .or (found.children.map fun choice =>
        rewrite ⟨.and, none, before ++ choice :: after⟩))
  else ⟨node.kind, node.value, children⟩

/-- The calls that rewriting a node makes, each result being the normal form of the call's
argument: one per child; for a conjunction whose rewritten children, spliced, have a first
disjunction, one per new conjunction, and one for the disjunction of their results. -/
inductive Calls : Node → Node → Prop
  | child {kind : Kind} {value : Option String} {children : List Node} {child : Node}
      (member : child ∈ children) : Calls child ⟨kind, value, children⟩
  | conj {value : Option String} {children before after : List Node} {found choice : Node}
      (split : splitAtFirstOr (spliceConj (children.map normalize)) = some (before, found, after))
      (chosen : choice ∈ found.children) :
      Calls ⟨.and, none, before ++ choice :: after⟩ ⟨.and, value, children⟩
  | disj {value : Option String} {children before after : List Node} {found : Node}
      (split : splitAtFirstOr (spliceConj (children.map normalize)) = some (before, found, after)) :
      Calls (.compound .or (found.children.map fun choice =>
        normalize ⟨.and, none, before ++ choice :: after⟩)) ⟨.and, value, children⟩

/-! ### The parts of a distribution -/

/-- Cutting the spliced normal forms of a list at a disjunction leaves normal parts, and normal
choices in the disjunction. -/
theorem normal_of_split {children before after : List Node} {found choice : Node}
    (split : splitAtFirstOr (spliceConj (children.map normalize)) = some (before, found, after))
    (chosen : choice ∈ found.children) : ∀ part ∈ before ++ choice :: after, part.Normal := by
  obtain ⟨splicedEq, -⟩ := splitAtFirstOr_eq split
  have normalForms : ∀ node ∈ children.map normalize, node.Normal := fun node member => by
    obtain ⟨source, -, rfl⟩ := List.mem_map.mp member
    exact normalize_normal source
  have spliced := spliceConj_normal normalForms
  rw [splicedEq] at spliced
  intro part member
  rcases List.mem_append.mp member with inBefore | inRest
  · exact (spliced part (List.mem_append_left _ inBefore)).1
  · rcases List.mem_cons.mp inRest with rfl | inAfter
    · obtain ⟨kind, v, options⟩ := found
      exact (Node.normal_mk.mp (spliced ⟨kind, v, options⟩ (by simp)).1).2 part chosen
    · exact (spliced part (by simp [inAfter])).1

/-- A conjunction whose rewritten children have a first disjunction is not normal: a normal one
has neither conjunction nor disjunction children and is its own normal form. -/
theorem not_normal_of_split {value : Option String} {children before after : List Node}
    {found : Node}
    (split : splitAtFirstOr (spliceConj (children.map normalize)) = some (before, found, after)) :
    ¬ Node.Normal ⟨.and, value, children⟩ := by
  intro normal
  obtain ⟨flat, below⟩ := Node.normal_mk.mp normal
  have unchanged : children.map normalize = children :=
    (List.map_congr_left fun child member => normalize_of_normal (below child member)).trans
      (List.map_id children)
  rw [unchanged, spliceConj_of_forall_ne_and fun child member => (flat rfl child member).1,
    splitAtFirstOr_of_forall_ne_or fun child member => (flat rfl child member).2] at split
  cases split

/-- Each new conjunction weighs less than the list it was cut from: a choice weighs less than
the disjunction it replaces. -/
theorem listWeight_lt_of_split {nodes before after : List Node} {found choice : Node}
    (split : splitAtFirstOr (spliceConj nodes) = some (before, found, after))
    (chosen : choice ∈ found.children) : listWeight (before ++ choice :: after) < listWeight nodes := by
  obtain ⟨splicedEq, isDisj⟩ := splitAtFirstOr_eq split
  have whole := listWeight_spliceConj nodes
  rw [splicedEq, listWeight_append, listWeight_cons] at whole
  obtain ⟨kind, v, options⟩ := found
  simp only at isDisj
  subst isDisj
  have choiceLe := orWeight_le_size choice
  have choiceLt := @size_lt_of_mem choice .or v options chosen
  rw [orWeight_or] at whole
  rw [listWeight_append, listWeight_cons]
  omega

/-! ### Every call lowers the measure -/

/-- A call on a child lowers the measure: the child has fewer flaws, or both are normal and the
child is smaller. -/
theorem rewriteMeasure_child {kind : Kind} {value : Option String} {children : List Node}
    {child : Node} (member : child ∈ children) :
    rewriteMeasure child < rewriteMeasure ⟨kind, value, children⟩ := by
  rw [rewriteMeasure, rewriteMeasure, Prod.Lex.toLex_lt_toLex]
  dsimp only
  by_cases childNormal : child.Normal
  · by_cases parentNormal : Node.Normal ⟨kind, value, children⟩
    · refine .inr ⟨by rw [Node.flaws_of_normal childNormal, Node.flaws_of_normal parentNormal], ?_⟩
      simp only [Node.pending, if_pos childNormal, if_pos parentNormal]
      exact size_lt_of_mem member
    · have := Node.one_le_flaws parentNormal
      exact .inl (by rw [Node.flaws_of_normal childNormal]; omega)
  · exact .inl (Node.flaws_lt_of_mem member childNormal)

/-- A call on a new conjunction lowers the measure. Its children are normal, so it has at most
one flaw; a conjunction with a child that is not normal has two. With normal children the
conjunction has one flaw, and the new conjunction, if not normal, weighs less. -/
theorem rewriteMeasure_conj {value : Option String} {children before after : List Node}
    {found choice : Node}
    (split : splitAtFirstOr (spliceConj (children.map normalize)) = some (before, found, after))
    (chosen : choice ∈ found.children) :
    rewriteMeasure ⟨.and, none, before ++ choice :: after⟩ < rewriteMeasure ⟨.and, value, children⟩ := by
  rw [rewriteMeasure, rewriteMeasure, Prod.Lex.toLex_lt_toLex]
  dsimp only
  have calleeFlaws : Node.flaws ⟨.and, none, before ++ choice :: after⟩ ≤ 1 :=
    Node.flaws_le_one (normal_of_split split chosen)
  have callerNot : ¬ Node.Normal ⟨.and, value, children⟩ := not_normal_of_split split
  by_cases childrenNormal : ∀ child ∈ children, child.Normal
  · have unchanged : children.map normalize = children :=
      (List.map_congr_left fun child member => normalize_of_normal (childrenNormal child member)).trans
        (List.map_id children)
    have callerFlaws : Node.flaws ⟨.and, value, children⟩ = 1 :=
      le_antisymm (Node.flaws_le_one childrenNormal) (Node.one_le_flaws callerNot)
    by_cases calleeNormal : Node.Normal ⟨.and, none, before ++ choice :: after⟩
    · exact .inl (by rw [Node.flaws_of_normal calleeNormal, callerFlaws]; omega)
    · have lighter := listWeight_lt_of_split split chosen
      rw [unchanged] at lighter
      refine .inr ⟨?_, ?_⟩
      · rw [callerFlaws]
        exact le_antisymm calleeFlaws (Node.one_le_flaws calleeNormal)
      · simp only [Node.pending, if_neg calleeNormal, if_neg callerNot, orWeight_and]
        exact lighter
  · -- a child that is not normal gives the conjunction a second flaw
    push Not at childrenNormal
    obtain ⟨child, member, childNot⟩ := childrenNormal
    have deeper : child.flaws < Node.flaws ⟨.and, value, children⟩ :=
      Node.flaws_lt_of_mem member childNot
    have childFlaw := Node.one_le_flaws childNot
    exact .inl (by omega)

/-- A call on the new disjunction lowers the measure: it is normal, and the conjunction is not. -/
theorem rewriteMeasure_disj {value : Option String} {children before after : List Node}
    {found : Node}
    (split : splitAtFirstOr (spliceConj (children.map normalize)) = some (before, found, after)) :
    rewriteMeasure (.compound .or (found.children.map fun choice =>
      normalize ⟨.and, none, before ++ choice :: after⟩)) < rewriteMeasure ⟨.and, value, children⟩ := by
  rw [rewriteMeasure, rewriteMeasure, Prod.Lex.toLex_lt_toLex]
  dsimp only
  have normal : Node.Normal (.compound .or (found.children.map fun choice =>
      normalize ⟨.and, none, before ++ choice :: after⟩)) := by
    refine Node.normal_mk.mpr ⟨by simp, fun node member => ?_⟩
    obtain ⟨choice, -, rfl⟩ := List.mem_map.mp member
    exact normalize_normal _
  have callerFlaw : 1 ≤ Node.flaws ⟨.and, value, children⟩ :=
    Node.one_le_flaws (not_normal_of_split split)
  exact .inl (by rw [Node.flaws_of_normal normal]; omega)

theorem Calls.decreases {callee caller : Node} (calls : Calls callee caller) :
    rewriteMeasure callee < rewriteMeasure caller := by
  cases calls with
  | child member => exact rewriteMeasure_child member
  | conj split chosen => exact rewriteMeasure_conj split chosen
  | disj split => exact rewriteMeasure_disj split

theorem calls_wellFounded : WellFounded Calls :=
  (InvImage.wf rewriteMeasure wellFounded_lt).mono fun _ _ calls => calls.decreases

/-! ### The normal form is the solution of the recursion -/

/-- Without a first disjunction, distributing keeps the spliced conjunction; with one, it
distributes over the choices. -/
theorem distribute_of_some {value : Option String} {children before after : List Node}
    {found : Node} (split : splitAtFirstOr (spliceConj children) = some (before, found, after)) :
    distribute value children =
      .compound .or (found.children.map fun choice => distribute none (before ++ choice :: after)) := by
  rw [distribute]
  split
  · rename_i noSplit
    rw [noSplit] at split
    cases split
  · rename_i before' found' after' split'
    rw [split] at split'
    simp only [Option.some.injEq, Prod.mk.injEq] at split'
    obtain ⟨rfl, rfl, rfl⟩ := split'
    simp

/-- The normal form solves the recursion. -/
theorem normalize_callStep (tree : Node) : callStep normalize tree = normalize tree := by
  obtain ⟨kind, value, children⟩ := tree
  by_cases conj : kind = .and
  · subst conj
    simp only [callStep, if_true, normalize_and]
    split
    · rename_i noSplit
      rw [distribute_of_none noSplit]
    · rename_i before found after split
      rw [distribute_of_some split, Node.compound, normalize_of_ne_and (by decide), List.map_map]
      congr 1
      refine List.map_congr_left fun choice chosen => ?_
      -- each new conjunction has normal children, so rewriting it distributes at once
      have parts := normal_of_split split chosen
      have unchanged : (before ++ choice :: after).map normalize = before ++ choice :: after :=
        (List.map_congr_left fun part member => normalize_of_normal (parts part member)).trans
          (List.map_id _)
      rw [Function.comp_apply, unchanged, normalize_of_normal (distribute_normal none _ parts)]
  · simp only [callStep, if_neg conj, normalize_of_ne_and conj]

/-- Any function that solves the recursion is the normal form: by induction along the calls,
each call it makes has the normal form for its answer. -/
theorem eq_normalize_of_callStep {rewrite : Node → Node}
    (solves : ∀ node, callStep rewrite node = rewrite node) (tree : Node) :
    rewrite tree = normalize tree := by
  induction tree using calls_wellFounded.induction with
  | _ node earlier =>
  obtain ⟨kind, value, children⟩ := node
  rw [← solves, ← normalize_callStep]
  have rewritten : children.map rewrite = children.map normalize :=
    List.map_congr_left fun child member => earlier child (.child member)
  simp only [callStep, rewritten]
  split
  · rename_i conj
    subst conj
    split
    · rfl
    · rename_i before found after split
      have branches : (found.children.map fun choice => rewrite ⟨.and, none, before ++ choice :: after⟩) =
          found.children.map fun choice => normalize ⟨.and, none, before ++ choice :: after⟩ :=
        List.map_congr_left fun choice chosen => earlier _ (.conj split chosen)
      rw [branches, earlier _ (.disj split)]
  · rfl

/-- Computing the normal form by its recursion terminates. The recursion has the normal form for
its only solution, and every call it makes lowers the flaws of the tree, or keeps them and
lowers what is left to do, although the new conjunctions and the new disjunction may be larger
than the node that makes the call; so the calls are well founded. -/
theorem rewrite_recursion_terminates :
    (∀ rewrite : Node → Node, (∀ node, callStep rewrite node = rewrite node) ↔ rewrite = normalize) ∧
    (∀ {callee caller : Node}, Calls callee caller → rewriteMeasure callee < rewriteMeasure caller) ∧
      WellFounded Calls := by
  refine ⟨fun rewrite => ⟨fun solves => ?_, fun solution => ?_⟩, Calls.decreases, calls_wellFounded⟩
  · funext tree
    exact eq_normalize_of_callStep solves tree
  · subst solution
    exact normalize_callStep

end Listening.Query
