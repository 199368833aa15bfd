import Listening.Proofs.Classes

/-!
# The classes of a tree, read off its paths

The classification walks a tree from the root, noting whether a negation and whether a
conjunction stand above, and stops at terms and at nodes of other kinds. What it collects can be
said without the walk, by the paths of the tree: `tree.Reaches kinds node` says that going down
from `tree` arrives at `node` through nodes of the kinds `kinds`. A path through conjunctions,
disjunctions and negations only is one the walk follows.

* The standalone values are those of the terms reached through disjunctions only.
* The excluded values are those of the terms reached on a followed path with a negation on it.
* The pairs are, for every conjunction on a followed path, the ordered pairs of two distinct
  values collected below it, through nodes of every kind but terms (`Node.Collects`, which is
  what `Node.terms` lists: `mem_terms_iff`).

Each class is characterised under any context of the walk, by recursion on the tree with one
case per kind (`mem_standalone_classifyUnder`, `mem_excluded_classifyUnder`,
`mem_pairs_classifyUnder`); from the root, and for trees whose terms hold texts, the three
together are `classify_reads_paths`.
-/

namespace Listening.Query

/-- The kinds the classification walks through: conjunctions, disjunctions and negations. -/
def Kind.IsConnective (kind : Kind) : Prop :=
  kind = .and ∨ kind = .or ∨ kind = .not

theorem Kind.IsConnective.ne_term {kind : Kind} (connective : kind.IsConnective) :
    kind ≠ .term := by
  rcases connective with rfl | rfl | rfl <;> simp

namespace Node

/-- `tree.Reaches kinds node`: going down from `tree` one child at a time arrives at `node`, and
`kinds` lists the kinds of the nodes passed through on the way, `tree` first and `node` left
out. -/
inductive Reaches : Node → List Kind → Node → Prop
  | here (tree : Node) : Reaches tree [] tree
  | down {tree child node : Node} {kinds : List Kind} (member : child ∈ tree.children)
      (rest : Reaches child kinds node) : Reaches tree (tree.kind :: kinds) node

theorem reaches_mk_iff {kind : Kind} {value : Option String} {children : List Node}
    {kinds : List Kind} {node : Node} :
    Reaches ⟨kind, value, children⟩ kinds node ↔
      (kinds = [] ∧ node = ⟨kind, value, children⟩) ∨
        ∃ rest, kinds = kind :: rest ∧ ∃ child ∈ children, Reaches child rest node := by
  constructor
  · rintro (_ | ⟨member, rest⟩)
    · exact .inl ⟨rfl, rfl⟩
    · exact .inr ⟨_, rfl, _, member, rest⟩
  · rintro (⟨rfl, rfl⟩ | ⟨rest, rfl, child, member, below⟩)
    · exact .here _
    · exact .down member below

/-- A path from a node either stops at once or goes on from one of its children, with the
node's kind in front. -/
theorem exists_reaches_mk {kind : Kind} {value : Option String} {children : List Node}
    {holds : List Kind → Node → Prop} :
    (∃ kinds node, Reaches ⟨kind, value, children⟩ kinds node ∧ holds kinds node) ↔
      holds [] ⟨kind, value, children⟩ ∨
        ∃ child ∈ children, ∃ kinds node,
          Reaches child kinds node ∧ holds (kind :: kinds) node := by
  constructor
  · rintro ⟨kinds, node, reaches, holding⟩
    rcases reaches_mk_iff.mp reaches with ⟨rfl, rfl⟩ | ⟨rest, rfl, child, member, below⟩
    · exact .inl holding
    · exact .inr ⟨child, member, rest, node, below, holding⟩
  · rintro (holding | ⟨child, member, kinds, node, below, holding⟩)
    · exact ⟨[], _, .here _, holding⟩
    · exact ⟨kind :: kinds, node, .down member below, holding⟩

theorem Reaches.trans {tree middle node : Node} {first second : List Kind}
    (toMiddle : tree.Reaches first middle) (fromMiddle : middle.Reaches second node) :
    tree.Reaches (first ++ second) node := by
  induction toMiddle with
  | here => exact fromMiddle
  | down member _ onward => exact .down member (onward fromMiddle)

/-- A term value collected from a tree: the value of a term node reached through nodes of any
kind but terms. -/
def Collects (tree : Node) (value : Option String) : Prop :=
  ∃ kinds node, tree.Reaches kinds node ∧ (∀ k ∈ kinds, k ≠ .term) ∧ node.kind = .term ∧
    node.value = value

theorem terms_of_ne_term {kind : Kind} (value : Option String) (children : List Node)
    (notTerm : kind ≠ .term) :
    terms ⟨kind, value, children⟩ = children.flatMap terms := by
  cases kind <;> first | exact absurd rfl notTerm | simp [terms]

/-- The term values of a tree are the values it collects. -/
theorem mem_terms_iff : ∀ (tree : Node) (value : Option String),
    value ∈ tree.terms ↔ tree.Collects value
  | ⟨kind, nodeValue, children⟩, value => by
    have below : ∀ child ∈ children, (value ∈ child.terms ↔ child.Collects value) :=
      fun child _ => mem_terms_iff child value
    unfold Collects
    rw [exists_reaches_mk]
    by_cases isTerm : kind = .term
    · subst isTerm
      simp [eq_comm]
    · rw [terms_of_ne_term nodeValue children isTerm, List.mem_flatMap]
      simp only [List.not_mem_nil, IsEmpty.forall_iff, implies_true, isTerm, false_and, false_or,
        List.mem_cons, forall_eq_or_imp, ne_eq, not_false_eq_true, true_and]
      exact exists_congr fun child => and_congr_right fun member => below child member

/-- The standalone values of a walk are the values of the terms it reaches through disjunctions
only, outside every negation and conjunction. -/
theorem mem_standalone_classifyUnder : ∀ (tree : Node) (underNot underAnd : Bool)
    (value : Option String),
    value ∈ (tree.classifyUnder underNot underAnd).standalone ↔
      underNot = false ∧ underAnd = false ∧ ∃ kinds node, tree.Reaches kinds node ∧
        (∀ k ∈ kinds, k = .or) ∧ node.kind = .term ∧ node.value = value
  | ⟨kind, nodeValue, children⟩, underNot, underAnd, value => by
    have below : ∀ child ∈ children, ∀ underNot underAnd,
        value ∈ (child.classifyUnder underNot underAnd).standalone ↔
          underNot = false ∧ underAnd = false ∧ ∃ kinds node, child.Reaches kinds node ∧
            (∀ k ∈ kinds, k = .or) ∧ node.kind = .term ∧ node.value = value :=
      fun child _ underNot underAnd => mem_standalone_classifyUnder child underNot underAnd value
    rw [exists_reaches_mk]
    cases kind with
    | term => cases underNot <;> cases underAnd <;> simp [eq_comm]
    | or =>
      simp only [classifyUnder_or, Classification.unionAll_eq, List.flatMap_map, List.mem_flatMap]
      rw [exists_congr fun child => and_congr_right fun member => below child member _ _]
      simp only [List.mem_cons, forall_eq_or_imp, List.not_mem_nil, true_and]
      constructor
      · rintro ⟨child, member, rfl, rfl, path⟩
        exact ⟨rfl, rfl, .inr ⟨child, member, path⟩⟩
      · rintro ⟨rfl, rfl, ⟨-, absurd, -⟩ | ⟨child, member, path⟩⟩
        · cases absurd
        · exact ⟨child, member, rfl, rfl, path⟩
    | and =>
      simp only [classifyUnder_and, Classification.union, Classification.unionAll_eq,
        List.flatMap_map, List.mem_flatMap, List.nil_append]
      rw [exists_congr fun child => and_congr_right fun member => below child member _ _]
      simp
    | not =>
      simp only [classifyUnder_not, Classification.unionAll_eq, List.flatMap_map, List.mem_flatMap]
      rw [exists_congr fun child => and_congr_right fun member => below child member _ _]
      simp
    | other name => simp

/-- The excluded values of a walk are the values of the terms it reaches through conjunctions,
disjunctions and negations, under at least one negation. -/
theorem mem_excluded_classifyUnder : ∀ (tree : Node) (underNot underAnd : Bool)
    (value : Option String),
    value ∈ (tree.classifyUnder underNot underAnd).excluded ↔
      ∃ kinds node, tree.Reaches kinds node ∧ (∀ k ∈ kinds, k.IsConnective) ∧
        (underNot = true ∨ .not ∈ kinds) ∧ node.kind = .term ∧ node.value = value
  | ⟨kind, nodeValue, children⟩, underNot, underAnd, value => by
    have below : ∀ child ∈ children, ∀ underNot underAnd,
        value ∈ (child.classifyUnder underNot underAnd).excluded ↔
          ∃ kinds node, child.Reaches kinds node ∧ (∀ k ∈ kinds, k.IsConnective) ∧
            (underNot = true ∨ .not ∈ kinds) ∧ node.kind = .term ∧ node.value = value :=
      fun child _ underNot underAnd => mem_excluded_classifyUnder child underNot underAnd value
    rw [exists_reaches_mk]
    cases kind with
    | term => cases underNot <;> cases underAnd <;> simp [eq_comm, Kind.IsConnective]
    | or =>
      simp only [classifyUnder_or, Classification.unionAll_eq, List.flatMap_map, List.mem_flatMap]
      rw [exists_congr fun child => and_congr_right fun member => below child member _ _]
      simp [Kind.IsConnective]
    | and =>
      simp only [classifyUnder_and, Classification.union, Classification.unionAll_eq,
        List.flatMap_map, List.mem_flatMap, List.nil_append]
      rw [exists_congr fun child => and_congr_right fun member => below child member _ _]
      simp [Kind.IsConnective]
    | not =>
      simp only [classifyUnder_not, Classification.unionAll_eq, List.flatMap_map, List.mem_flatMap]
      rw [exists_congr fun child => and_congr_right fun member => below child member _ _]
      simp [Kind.IsConnective]
    | other name => simp [Kind.IsConnective]

/-- The pairs of a walk are the pairs of the conjunctions it reaches through conjunctions,
disjunctions and negations. -/
theorem mem_pairs_classifyUnder : ∀ (tree : Node) (underNot underAnd : Bool)
    (pair : Option String × Option String),
    pair ∈ (tree.classifyUnder underNot underAnd).pairs ↔
      ∃ kinds conj, tree.Reaches kinds conj ∧ (∀ k ∈ kinds, k.IsConnective) ∧
        conj.kind = .and ∧ pair ∈ pairsOf conj.terms
  | ⟨kind, nodeValue, children⟩, underNot, underAnd, pair => by
    have below : ∀ child ∈ children, ∀ underNot underAnd,
        pair ∈ (child.classifyUnder underNot underAnd).pairs ↔
          ∃ kinds conj, child.Reaches kinds conj ∧ (∀ k ∈ kinds, k.IsConnective) ∧
            conj.kind = .and ∧ pair ∈ pairsOf conj.terms :=
      fun child _ underNot underAnd => mem_pairs_classifyUnder child underNot underAnd pair
    rw [exists_reaches_mk]
    cases kind with
    | term => cases underNot <;> cases underAnd <;> simp [Kind.IsConnective]
    | or =>
      simp only [classifyUnder_or, Classification.unionAll_eq, List.flatMap_map, List.mem_flatMap]
      rw [exists_congr fun child => and_congr_right fun member => below child member _ _]
      simp [Kind.IsConnective]
    | and =>
      simp only [classifyUnder_and, Classification.union, Classification.unionAll_eq,
        List.flatMap_map, List.mem_flatMap, List.mem_append]
      rw [exists_congr fun child => and_congr_right fun member => below child member _ _]
      simp [Kind.IsConnective, terms_of_ne_term]
    | not =>
      simp only [classifyUnder_not, Classification.unionAll_eq, List.flatMap_map, List.mem_flatMap]
      rw [exists_congr fun child => and_congr_right fun member => below child member _ _]
      simp [Kind.IsConnective]
    | other name => simp [Kind.IsConnective]

/-- A value collected below a node that the tree reaches through no term is collected from the
tree. -/
theorem Collects.of_reaches {tree conj : Node} {kinds : List Kind} {value : Option String}
    (reaches : tree.Reaches kinds conj) (noTerm : ∀ k ∈ kinds, k ≠ .term)
    (collected : conj.Collects value) : tree.Collects value := by
  obtain ⟨more, node, below, moreNoTerm, isTerm, rfl⟩ := collected
  refine ⟨kinds ++ more, node, reaches.trans below, ?_, isTerm, rfl⟩
  intro k member
  rcases List.mem_append.mp member with early | late
  · exact noTerm k early
  · exact moreNoTerm k late

/-- The classes of a tree read off the tree itself. Its standalone values are those of the terms
it reaches through disjunctions only; its excluded values those of the terms it reaches through
conjunctions, disjunctions and negations, at least one of them a negation; and when every term
value is a text, its pairs are, for every conjunction it reaches through those kinds, the two
distinct texts `a` and `b` collected from that conjunction, written `(min a b, max a b)`. -/
theorem classify_reads_paths (tree : Node) (texts : none ∉ tree.terms) :
    (∀ value, value ∈ tree.classify.standalone ↔
      ∃ kinds node, tree.Reaches kinds node ∧ (∀ k ∈ kinds, k = .or) ∧ node.kind = .term ∧
        node.value = value) ∧
    (∀ value, value ∈ tree.classify.excluded ↔
      ∃ kinds node, tree.Reaches kinds node ∧ (∀ k ∈ kinds, k.IsConnective) ∧ .not ∈ kinds ∧
        node.kind = .term ∧ node.value = value) ∧
    (∀ pair, pair ∈ tree.classify.pairs ↔
      ∃ kinds conj, tree.Reaches kinds conj ∧ (∀ k ∈ kinds, k.IsConnective) ∧ conj.kind = .and ∧
        ∃ a b : String, conj.Collects (some a) ∧ conj.Collects (some b) ∧ a ≠ b ∧
          pair = (some (min a b), some (max a b))) := by
  refine ⟨fun value => ?_, fun value => ?_, fun pair => ?_⟩
  · simp [classify, mem_standalone_classifyUnder]
  · simp [classify, mem_excluded_classifyUnder]
  · rw [classify, mem_pairs_classifyUnder]
    refine exists_congr fun kinds => exists_congr fun conj => ?_
    refine and_congr_right fun reaches => and_congr_right fun connective => and_congr_right
      fun _ => ?_
    -- Every value collected below the conjunction is collected from the tree, so it is a text.
    have text : ∀ value, conj.Collects value → ∃ t, value = some t := by
      intro value collected
      have fromTree := collected.of_reaches reaches fun k member => (connective k member).ne_term
      cases value with
      | none => exact absurd ((mem_terms_iff tree none).mpr fromTree) texts
      | some t => exact ⟨t, rfl⟩
    rw [mem_pairsOf]
    constructor
    · rintro ⟨a, aMember, b, bMember, differ, rfl⟩
      obtain ⟨x, rfl⟩ := text a ((mem_terms_iff conj a).mp aMember)
      obtain ⟨y, rfl⟩ := text b ((mem_terms_iff conj b).mp bMember)
      exact ⟨x, y, (mem_terms_iff conj _).mp aMember, (mem_terms_iff conj _).mp bMember,
        fun same => differ (congrArg some same), orderedPair_some x y⟩
    · rintro ⟨x, y, xCollected, yCollected, differ, rfl⟩
      exact ⟨some x, (mem_terms_iff conj _).mpr xCollected, some y,
        (mem_terms_iff conj _).mpr yCollected, fun same => differ (Option.some.inj same),
        (orderedPair_some x y).symm⟩

/-- `(a OR b) AND NOT (c AND d)` holds only texts. -/
theorem classify_reads_paths_of_negated_conjunction :
    let tree := compound .and [compound .or [term "a", term "b"],
      compound .not [compound .and [term "c", term "d"]]]
    none ∉ tree.terms ∧
    (∀ value, value ∈ tree.classify.standalone ↔
      ∃ kinds node, tree.Reaches kinds node ∧ (∀ k ∈ kinds, k = .or) ∧ node.kind = .term ∧
        node.value = value) ∧
    (∀ value, value ∈ tree.classify.excluded ↔
      ∃ kinds node, tree.Reaches kinds node ∧ (∀ k ∈ kinds, k.IsConnective) ∧ .not ∈ kinds ∧
        node.kind = .term ∧ node.value = value) ∧
    (∀ pair, pair ∈ tree.classify.pairs ↔
      ∃ kinds conj, tree.Reaches kinds conj ∧ (∀ k ∈ kinds, k.IsConnective) ∧ conj.kind = .and ∧
        ∃ a b : String, conj.Collects (some a) ∧ conj.Collects (some b) ∧ a ≠ b ∧
          pair = (some (min a b), some (max a b))) :=
  have texts : none ∉ (compound .and [compound .or [term "a", term "b"],
      compound .not [compound .and [term "c", term "d"]]]).terms := by
    simp [compound, term, terms_of_ne_term]
  ⟨texts, classify_reads_paths _ texts⟩

end Node

end Listening.Query
