import Listening.Proofs.Disjuncts

/-!
# The normal form is normal, and normalizing twice changes nothing

A tree is normal (`Node.Normal`) when no conjunction in it, at any depth and under any kind of
node, has a conjunction or a disjunction child. The normal form of every tree is normal
(`normalize_normal`), and normalizing leaves a normal tree as it is (`normalize_of_normal`), so
a second normalization returns the same tree (`normalize_normal_idempotent`).

Both rest on what distributing does to normal children. Splicing normal nodes leaves normal
nodes none of which is a conjunction (`spliceConj_normal`); a list with neither conjunctions nor
disjunctions is not spliced and has no first disjunction, so distributing over it keeps the
conjunction as it was (`distribute_of_flat`).

Normality can be computed (`Node.isNormal`), so it is decidable.
-/

namespace Listening.Query

namespace Node

/-- No conjunction of the tree, at any depth, has a conjunction or a disjunction child. -/
inductive Normal : Node → Prop
  | node {kind : Kind} {value : Option String} {children : List Node}
      (flat : kind = .and → ∀ child ∈ children, child.kind ≠ .and ∧ child.kind ≠ .or)
      (below : ∀ child ∈ children, Normal child) : Normal ⟨kind, value, children⟩

@[simp] theorem normal_mk {kind : Kind} {value : Option String} {children : List Node} :
    Normal ⟨kind, value, children⟩ ↔
      (kind = .and → ∀ child ∈ children, child.kind ≠ .and ∧ child.kind ≠ .or) ∧
        ∀ child ∈ children, Normal child :=
  ⟨fun | .node flat below => ⟨flat, below⟩, fun ⟨flat, below⟩ => .node flat below⟩

/-- Whether a tree is normal, node by node. -/
def isNormal : Node → Bool
  | ⟨kind, _, children⟩ =>
    (!decide (kind = .and) ||
      children.all fun child => !decide (child.kind = .and) && !decide (child.kind = .or)) &&
      children.attach.all fun ⟨child, _⟩ => child.isNormal

theorem isNormal_iff : ∀ tree : Node, tree.isNormal = true ↔ tree.Normal
  | ⟨kind, value, children⟩ => by
    have below : ∀ child ∈ children, child.isNormal = true ↔ child.Normal :=
      fun child _ => isNormal_iff child
    rw [isNormal, normal_mk]
    simp only [Bool.and_eq_true, Bool.or_eq_true, Bool.not_eq_true', decide_eq_false_iff_not,
      List.all_eq_true, Bool.and_eq_true, List.mem_attach, true_implies, Subtype.forall]
    constructor
    · rintro ⟨flat, deeper⟩
      refine ⟨fun conj child member => ?_, fun child member => (below child member).mp
        (deeper child member)⟩
      rcases flat with notConj | allFlat
      · exact absurd conj notConj
      · exact allFlat child member
    · rintro ⟨flat, deeper⟩
      refine ⟨?_, fun child member => (below child member).mpr (deeper child member)⟩
      by_cases conj : kind = .and
      · exact .inr (flat conj)
      · exact .inl conj

instance : DecidablePred Normal := fun tree => decidable_of_iff _ (isNormal_iff tree)

end Node

/-- Splicing normal nodes leaves normal nodes, none of them a conjunction: the children of a
normal conjunction are neither conjunctions nor disjunctions. -/
theorem spliceConj_normal {nodes : List Node} (each : ∀ node ∈ nodes, node.Normal) :
    ∀ node ∈ spliceConj nodes, node.Normal ∧ node.kind ≠ .and := by
  intro node member
  obtain ⟨source, sourceMember, fromSource⟩ := List.mem_flatMap.mp member
  obtain ⟨kind, value, children⟩ := source
  have sourceNormal := Node.normal_mk.mp (each _ sourceMember)
  by_cases conj : kind = .and
  · subst conj
    simp only [if_true] at fromSource
    exact ⟨sourceNormal.2 node fromSource, (sourceNormal.1 rfl node fromSource).1⟩
  · simp only [conj, if_false, List.mem_singleton] at fromSource
    subst fromSource
    exact ⟨each _ sourceMember, conj⟩

/-- A list without conjunctions is not spliced. -/
theorem spliceConj_of_forall_ne_and {nodes : List Node} (noConj : ∀ node ∈ nodes, node.kind ≠ .and) :
    spliceConj nodes = nodes := by
  induction nodes with
  | nil => rfl
  | cons node rest restSame =>
    rw [spliceConj, List.flatMap_cons, ← spliceConj,
      restSame fun other member => noConj other (List.mem_cons_of_mem node member),
      if_neg (noConj node List.mem_cons_self)]
    rfl

/-- A list without disjunctions has no first disjunction. -/
theorem splitAtFirstOr_of_forall_ne_or {nodes : List Node} (noDisj : ∀ node ∈ nodes, node.kind ≠ .or) :
    splitAtFirstOr nodes = none := by
  induction nodes with
  | nil => rfl
  | cons node rest restNone =>
    rw [splitAtFirstOr, if_neg (noDisj node List.mem_cons_self),
      restNone fun other member => noDisj other (List.mem_cons_of_mem node member)]
    rfl

/-- Without a first disjunction after splicing, distributing keeps the conjunction over the
spliced children, with its value. -/
theorem distribute_of_none {value : Option String} {children : List Node}
    (noSplit : splitAtFirstOr (spliceConj children) = none) :
    distribute value children = ⟨.and, value, spliceConj children⟩ := by
  rw [distribute]
  split
  · rfl
  · rename_i split
    rw [noSplit] at split
    cases split

/-- Distributing over children with neither conjunctions nor disjunctions changes nothing. -/
theorem distribute_of_flat {value : Option String} {children : List Node}
    (flat : ∀ child ∈ children, child.kind ≠ .and ∧ child.kind ≠ .or) :
    distribute value children = ⟨.and, value, children⟩ := by
  have unspliced := spliceConj_of_forall_ne_and fun child member => (flat child member).1
  have noSplit : splitAtFirstOr (spliceConj children) = none := by
    rw [unspliced]
    exact splitAtFirstOr_of_forall_ne_or fun child member => (flat child member).2
  rw [distribute_of_none noSplit, unspliced]

/-- Distributing a conjunction over normal children gives a normal tree. -/
theorem distribute_normal (value : Option String) (children : List Node)
    (each : ∀ child ∈ children, child.Normal) : (distribute value children).Normal := by
  fun_induction distribute value children with
  | case1 value children noSplit =>
    have spliced := spliceConj_normal each
    refine Node.normal_mk.mpr ⟨fun _ node member => ⟨(spliced node member).2,
      splitAtFirstOr_none noSplit node member⟩, fun node member => (spliced node member).1⟩
  | case2 value children before found after split choicesNormal =>
    obtain ⟨splicedEq, -⟩ := splitAtFirstOr_eq split
    have spliced := spliceConj_normal each
    rw [splicedEq] at spliced
    -- the disjunction cut out is normal, so each of its choices is
    have choiceNormal : ∀ choice ∈ found.children, choice.Normal := by
      obtain ⟨kind, v, options⟩ := found
      exact (Node.normal_mk.mp (spliced ⟨kind, v, options⟩ (by simp)).1).2
    refine Node.normal_mk.mpr ⟨by simp, ?_⟩
    intro node member
    obtain ⟨⟨choice, choiceMember⟩, -, rfl⟩ := List.mem_map.mp member
    apply choicesNormal ⟨choice, choiceMember⟩ choice choiceMember
    intro child childMember
    rcases List.mem_append.mp childMember with inBefore | inRest
    · exact (spliced child (List.mem_append_left _ inBefore)).1
    · rcases List.mem_cons.mp inRest with rfl | inAfter
      · exact choiceNormal child choiceMember
      · exact (spliced child (by simp [inAfter])).1

/-- The normal form of every tree is normal. -/
theorem normalize_normal (tree : Node) : (normalize tree).Normal := by
  induction tree using normalize.induct with
  | case1 value children childNormal =>
    rw [normalize_and]
    refine distribute_normal value _ fun child member => ?_
    obtain ⟨source, sourceMember, rfl⟩ := List.mem_map.mp member
    exact childNormal source sourceMember
  | case2 kind value children notConj childNormal =>
    rw [normalize_of_ne_and notConj, Node.normal_mk]
    refine ⟨fun conj => absurd conj notConj, fun child member => ?_⟩
    obtain ⟨source, sourceMember, rfl⟩ := List.mem_map.mp member
    exact childNormal source sourceMember

/-- Normalizing leaves a normal tree as it is. -/
theorem normalize_of_normal {tree : Node} (normal : tree.Normal) : normalize tree = tree := by
  induction normal with
  | @node kind value children flat below same =>
    have mapped : children.map normalize = children :=
      (List.map_congr_left same).trans (List.map_id children)
    by_cases conj : kind = .and
    · subst conj
      rw [normalize_and, mapped, distribute_of_flat (flat rfl)]
    · rw [normalize_of_ne_and conj, mapped]

/-- The normal form of a tree has no conjunction with a conjunction or disjunction child, at any
depth, and normalizing it again gives the same tree. -/
theorem normalize_normal_idempotent (tree : Node) :
    (normalize tree).Normal ∧ normalize (normalize tree) = normalize tree :=
  ⟨normalize_normal tree, normalize_of_normal (normalize_normal tree)⟩

end Listening.Query
