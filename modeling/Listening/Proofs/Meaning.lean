import Listening.Query.Graph
import Listening.Query.Normalize

/-!
# The meaning of a query tree

A query tree is a condition on the texts a document contains. Given a truth value for each term
value, a term holds when its value does, a conjunction when all its children hold (an empty one
always holds), a disjunction when one of them holds (an empty one never does), and a negation
when not all of them hold. The children of a term take no part, and a node of a kind this
library does not interpret holds nowhere.

Splicing conjunctions and cutting a list at its first disjunction keep the conjunction of a
list of children; distributing keeps it too (`holds_choices_of_or`: the neighbours of the
disjunction come out of it), so the normal form keeps the meaning of every tree
(`normalize_holds`).

The pass-based normalizer splices with the same step (`spliceChildren_holds`).
-/

namespace Listening.Query

namespace Node

/-- Whether a tree holds when each term value has the truth value that `present` gives it. -/
def holds (present : Option String → Bool) : Node → Bool
  | ⟨.term, value, _⟩ => present value
  | ⟨.and, _, children⟩ => children.attach.all fun ⟨child, _⟩ => child.holds present
  | ⟨.or, _, children⟩ => children.attach.any fun ⟨child, _⟩ => child.holds present
  | ⟨.not, _, children⟩ => !children.attach.all fun ⟨child, _⟩ => child.holds present
  | ⟨.other _, _, _⟩ => false

variable (present : Option String → Bool)

@[simp] theorem holds_term (value : Option String) (children : List Node) :
    holds present ⟨.term, value, children⟩ = present value := by
  simp [holds]

@[simp] theorem holds_and (value : Option String) (children : List Node) :
    holds present ⟨.and, value, children⟩ = children.all (holds present) := by
  simp [holds]

@[simp] theorem holds_or (value : Option String) (children : List Node) :
    holds present ⟨.or, value, children⟩ = children.any (holds present) := by
  simp [holds]

@[simp] theorem holds_not (value : Option String) (children : List Node) :
    holds present ⟨.not, value, children⟩ = !children.all (holds present) := by
  simp [holds]

@[simp] theorem holds_other (name : String) (value : Option String) (children : List Node) :
    holds present ⟨.other name, value, children⟩ = false := by
  simp [holds]

/-- Replacing each child by one with the same meaning keeps the meaning of a node, whatever
its kind. -/
theorem holds_map_children {kind : Kind} {value : Option String} {children : List Node}
    {rewrite : Node → Node}
    (same : ∀ child ∈ children, (rewrite child).holds present = child.holds present) :
    holds present ⟨kind, value, children.map rewrite⟩ = holds present ⟨kind, value, children⟩ := by
  have mapped : (children.map rewrite).map (holds present) = children.map (holds present) := by
    rw [List.map_map]
    exact List.map_congr_left same
  have allSame : (children.map rewrite).all (holds present) = children.all (holds present) := by
    simpa using congrArg (List.all · id) mapped
  have anySame : (children.map rewrite).any (holds present) = children.any (holds present) := by
    simpa using congrArg (List.any · id) mapped
  cases kind <;> simp only [holds_term, holds_and, holds_or, holds_not, holds_other, allSame,
    anySame]

end Node

variable (present : Option String → Bool)

/-- A conjunction spliced into its parent's list gives the conjunction of its own children. -/
theorem all_holds_splice (node : Node) :
    (if node.kind = .and then node.children else [node]).all (Node.holds present) =
      node.holds present := by
  obtain ⟨kind, value, children⟩ := node
  by_cases conj : kind = .and
  · subst conj
    simp
  · simp [conj]

/-- Splicing keeps the conjunction of a list. -/
theorem all_holds_spliceConj (nodes : List Node) :
    (spliceConj nodes).all (Node.holds present) = nodes.all (Node.holds present) := by
  induction nodes with
  | nil => rfl
  | cons node rest restHolds =>
    rw [spliceConj, List.flatMap_cons, List.all_append, ← spliceConj, restHolds,
      all_holds_splice, List.all_cons]

/-- Distributing a conjunction over one disjunction: the disjunction over its choices of the
conjunctions that put each choice between the same neighbours holds exactly when the
conjunction with the disjunction itself in that place does. -/
theorem holds_choices_of_or {before after : List Node} {chosen : Node} (isOr : chosen.kind = .or) :
    (Node.compound .or (chosen.children.map fun choice =>
        .compound .and (before ++ choice :: after))).holds present =
      (before ++ chosen :: after).all (Node.holds present) := by
  obtain ⟨kind, value, options⟩ := chosen
  simp only at isOr
  subst isOr
  have perChoice : ∀ choice, (Node.compound .and (before ++ choice :: after)).holds present =
      (before.all (Node.holds present) && after.all (Node.holds present) &&
        choice.holds present) := by
    intro choice
    simp only [Node.compound, Node.holds_and, List.all_append, List.all_cons]
    cases choice.holds present <;> simp
  rw [Node.compound, Node.holds_or, List.any_map, Function.comp_def]
  -- The neighbours are the same in every conjunction, so they come out of the disjunction.
  simp only [perChoice, ← List.and_any_distrib_left, List.all_append, List.all_cons,
    Node.holds_or]
  cases before.all (Node.holds present) <;> cases after.all (Node.holds present) <;> simp

/-- Distributing a conjunction keeps its meaning: the disjunction over the choices at the first
disjunction holds exactly when all the children hold. -/
theorem distribute_holds (value : Option String) (children : List Node) :
    (distribute value children).holds present = children.all (Node.holds present) := by
  fun_induction distribute value children with
  | case1 value children noDisjunction =>
    rw [Node.holds_and, all_holds_spliceConj]
  | case2 value children before found after split choicesHold =>
    obtain ⟨spliced, isDisjunction⟩ := splitAtFirstOr_eq split
    rw [← all_holds_spliceConj, spliced, ← holds_choices_of_or present isDisjunction]
    -- Each choice's conjunction is distributed again, which keeps its meaning.
    have sameChoice : ∀ choice (member : choice ∈ found.children),
        (distribute none (before ++ choice :: after)).holds present =
          (Node.compound .and (before ++ choice :: after)).holds present := by
      intro choice member
      rw [choicesHold ⟨choice, member⟩ choice member, Node.compound, Node.holds_and]
    simp only [Node.compound, Node.holds_or, List.any_map]
    apply Bool.eq_iff_iff.mpr
    simp only [List.any_eq_true, List.mem_attach, true_and, Subtype.exists, Function.comp_apply]
    refine exists_congr fun choice =>
      ⟨fun ⟨member, holds⟩ => ⟨member, ?_⟩, fun ⟨member, holds⟩ => ⟨member, ?_⟩⟩
    · rwa [sameChoice choice member] at holds
    · rwa [sameChoice choice member]

@[simp] theorem normalize_and (value : Option String) (children : List Node) :
    normalize ⟨.and, value, children⟩ = distribute value (children.map normalize) := by
  simp [normalize]

theorem normalize_of_ne_and {kind : Kind} (notConj : kind ≠ .and) (value : Option String)
    (children : List Node) :
    normalize ⟨kind, value, children⟩ = ⟨kind, value, children.map normalize⟩ := by
  cases kind <;> simp_all [normalize]

/-- The normal form of a tree has the meaning of the tree, under every assignment of truth
values to term values. -/
theorem normalize_holds (tree : Node) : (normalize tree).holds present = tree.holds present := by
  induction tree using normalize.induct with
  | case1 value children childHolds =>
    rw [normalize_and, distribute_holds, ← Node.holds_and present value]
    exact Node.holds_map_children present fun child member => childHolds child member
  | case2 kind value children notConj childHolds =>
    rw [normalize_of_ne_and notConj]
    exact Node.holds_map_children present fun child member => childHolds child member

/-- The splicing step of the pass-based normalizer keeps the meaning of a node. -/
theorem spliceChildren_holds (node : Node) :
    node.spliceChildren.1.holds present = node.holds present := by
  obtain ⟨kind, value, children⟩ := node
  unfold Node.spliceChildren
  split
  · rename_i spliced
    simp only [Bool.and_eq_true, decide_eq_true_eq, List.any_eq_true] at spliced
    obtain ⟨rfl, -⟩ := spliced
    show Node.holds present ⟨.and, value, spliceConj children⟩ = _
    rw [Node.holds_and, Node.holds_and, all_holds_spliceConj]
  · rfl

end Listening.Query
