import Mathlib.Data.List.GetD
import Listening.Proofs.GraphTrees

/-!
# Expanding a conjunction in a graph

The pass-based normalizer expands a conjunction at its first disjunction child: it adds one
conjunction per choice of that child, each with the choice in the disjunction's place, and a
disjunction over them. As a tree, the new disjunction holds exactly where the conjunction does
(`holds_expandAround`).

The normalizer stays right on queries in which no conjunction stands in a conjunction, directly
or through disjunctions (`Node.Unnested`): there it never splices, and the expansion of a
conjunction is unnested again (`unnested_expandAround`). Both facts are congruences on trees
(`holds_congruent`, `unnested_congruent`), the form in which writing into a graph carries them.

In the graph, an expansion is a node over fixed lists of children (`IsExpansion`); the tree below
it is the expansion of the trees below them (`IsExpansion.subtree_eq`). `expandAt_spec` says
what `expandAt` adds to a closed ranked graph.
-/

namespace Listening.Query

/-- Where a node stands, as far as the nesting of conjunctions goes. -/
inductive Place where
  /-- Not in a conjunction. -/
  | free
  /-- In a conjunction, directly or through disjunctions. -/
  | inConj
deriving DecidableEq

/-- The place of the children of a node of a kind standing at a place: a conjunction puts them
in a conjunction, a disjunction passes its own place on, and every other kind frees them. -/
def Place.below : Kind → Place → Place
  | .and, _ => .inConj
  | .or, place => place
  | _, _ => .free

namespace Node

/-- No conjunction stands in a conjunction, directly or through disjunctions, at the place of
the tree or anywhere below it. -/
inductive Unnested : Place → Node → Prop
  | node {place : Place} {kind : Kind} {value : Option String} {children : List Node}
      (free : kind = .and → place = .free)
      (below : ∀ child ∈ children, Unnested (place.below kind) child) :
      Unnested place ⟨kind, value, children⟩

@[simp] theorem unnested_mk {place : Place} {kind : Kind} {value : Option String}
    {children : List Node} :
    Unnested place ⟨kind, value, children⟩ ↔
      (kind = .and → place = .free) ∧ ∀ child ∈ children, Unnested (place.below kind) child :=
  ⟨fun | .node free below => ⟨free, below⟩, fun ⟨free, below⟩ => .node free below⟩

/-- A conjunction is unnested only where it is free. -/
theorem Unnested.free_of_and {place : Place} {tree : Node} (unnested : tree.Unnested place)
    (conj : tree.kind = .and) : place = .free := by
  obtain ⟨kind, value, children⟩ := tree
  exact (unnested_mk.mp unnested).1 conj

/-- Holding is a congruence on trees. -/
theorem holds_congruent (present : Option String → Bool) :
    Graph.Congruent fun tree tree' => tree'.holds present = tree.holds present := by
  intro kind value children children' related
  have mapped : children'.map (holds present) = children.map (holds present) := by
    induction related with
    | nil => rfl
    | cons same _ rest => rw [List.map_cons, List.map_cons, same, rest]
  have allSame : children'.all (holds present) = children.all (holds present) := by
    simpa using congrArg (List.all · id) mapped
  have anySame : children'.any (holds present) = children.any (holds present) := by
    simpa using congrArg (List.any · id) mapped
  cases kind <;> simp only [holds_term, holds_and, holds_or, holds_not, holds_other, allSame,
    anySame]

/-- Being unnested, at every place, is a congruence on trees. -/
theorem unnested_congruent :
    Graph.Congruent fun tree tree' => ∀ place, tree.Unnested place → tree'.Unnested place := by
  intro kind value children children' related place unnested
  rw [unnested_mk] at unnested ⊢
  refine ⟨unnested.1, ?_⟩
  -- Each child on the right is related to one on the left, which is unnested.
  induction related with
  | nil => simp
  | cons same _ rest =>
    intro child member
    rcases List.mem_cons.mp member with rfl | later
    · exact same _ (unnested.2 _ List.mem_cons_self)
    · exact rest ⟨unnested.1, fun other inside => unnested.2 other (List.mem_cons_of_mem _ inside)⟩
        child later

end Node

/-- The disjunction, over the choices, of the conjunction of the children before, the choice,
and the children after. -/
def expandAround (before after choices : List Node) : Node :=
  .compound .or (choices.map fun choice => .compound .and (before ++ choice :: after))

/-- Distributing a conjunction over its disjunction child keeps its meaning. -/
theorem holds_expandAround (present : Option String → Bool) (before after choices : List Node)
    (value value' : Option String) :
    (expandAround before after choices).holds present =
      Node.holds present ⟨.and, value, before ++ ⟨.or, value', choices⟩ :: after⟩ := by
  rw [expandAround, Node.holds_and]
  exact @holds_choices_of_or present before after ⟨.or, value', choices⟩ rfl

/-- The expansion of an unnested conjunction is unnested: its conjunctions stand in a free
disjunction, over children that stood in a conjunction before. -/
theorem unnested_expandAround {before after choices : List Node} {value value' : Option String}
    (unnested : Node.Unnested .free ⟨.and, value, before ++ ⟨.or, value', choices⟩ :: after⟩) :
    (expandAround before after choices).Unnested .free := by
  simp only [Node.unnested_mk, Place.below, List.mem_append, List.mem_cons] at unnested
  have inner := unnested.2
  have chosen := (Node.unnested_mk.mp (inner _ (Or.inr (Or.inl rfl)))).2
  simp only [expandAround, Node.compound, Node.unnested_mk, Place.below, List.mem_map]
  refine ⟨by simp, ?_⟩
  rintro _ ⟨choice, member, rfl⟩
  refine ⟨fun _ => rfl, ?_⟩
  intro child inside
  simp only [List.mem_append, List.mem_cons] at inside
  rcases inside with early | rfl | late
  · exact inner child (Or.inl early)
  · exact chosen child member
  · exact inner child (Or.inr (Or.inr late))

namespace Graph

variable {g : Graph} {rank : Nat → ℚ}

/-! ### Splicing and the first disjunction -/

/-- A node without conjunction children is not spliced. -/
theorem spliceAt_of_forall_ne_and {id : Nat}
    (none : ∀ child ∈ (g.vertex id).children, (g.vertex child).kind ≠ .and) :
    g.spliceAt id = (g, false) := by
  have noConj : ((g.vertex id).children.any fun child => decide ((g.vertex child).kind = .and)) =
      false := by
    simpa using none
  simp only [spliceAt, noConj, Bool.and_false, Bool.false_eq_true, ↓reduceIte]

/-- A conjunction node whose children are `before`, a disjunction over `choices`, and `after`. -/
structure SplitsAt (g : Graph) (id : Nat) (before : List Nat) (chosen : Nat)
    (after choices : List Nat) : Prop where
  conj : (g.vertex id).kind = .and
  children : (g.vertex id).children = before ++ chosen :: after
  disj : (g.vertex chosen).kind = .or
  choices : (g.vertex chosen).children = choices

/-- The first disjunction child of a conjunction splits its children there. -/
theorem splitsAt_of_firstOr {id position : Nat} (conj : (g.vertex id).kind = .and)
    (found : g.firstOr? id = some position) :
    g.SplitsAt id ((g.vertex id).children.take position) ((g.vertex id).children.getD position 0)
      ((g.vertex id).children.drop (position + 1))
      (g.vertex ((g.vertex id).children.getD position 0)).children := by
  obtain ⟨inside, isDisj, -⟩ := List.findIdx?_eq_some_iff_getElem.mp found
  have chosenEq := List.getD_eq_getElem (g.vertex id).children 0 inside
  refine ⟨conj, ?_, ?_, rfl⟩
  · rw [chosenEq, List.getElem_cons_drop, List.take_append_drop]
  · rw [chosenEq]
    simpa using isDisj

/-- The child at a position inside a node's list is one of its children. -/
theorem getD_mem_children {id position : Nat} (inside : position < (g.vertex id).children.length) :
    (g.vertex id).children.getD position 0 ∈ (g.vertex id).children := by
  rw [List.getD_eq_getElem _ 0 inside]
  exact List.getElem_mem inside

/-- The lists of an expansion of a node at one of its children are nodes ranked below the
node: its other children, and the children of that child. -/
theorem lt_of_mem_around (closed : g.Closed) (ranked : g.Ranked rank) {id position : Nat}
    (inside : position < (g.vertex id).children.length) {choice child : Nat}
    (chosen : choice ∈ (g.vertex ((g.vertex id).children.getD position 0)).children)
    (member : child ∈ (g.vertex id).children.take position ++
      choice :: (g.vertex id).children.drop (position + 1)) :
    child < g.vertices.size ∧ rank child < rank id := by
  have chosenMember := getD_mem_children inside
  simp only [List.mem_append, List.mem_cons] at member
  rcases member with early | rfl | late
  · have member := List.mem_of_mem_take early
    exact ⟨closed id child member, ranked id child member⟩
  · exact ⟨closed _ _ chosen, (ranked _ _ chosen).trans (ranked id _ chosenMember)⟩
  · have member := List.mem_of_mem_drop late
    exact ⟨closed id child member, ranked id child member⟩

/-- The first disjunction child is a child. -/
theorem lt_length_of_firstOr {id position : Nat} (found : g.firstOr? id = some position) :
    position < (g.vertex id).children.length :=
  (List.findIdx?_eq_some_iff_getElem.mp found).1

/-- A split stays where the node and its disjunction child keep their lists and kinds. -/
theorem SplitsAt.of_agree {g' : Graph} {id chosen : Nat} {before after choices : List Nat}
    (split : g.SplitsAt id before chosen after choices) (atNode : g'.vertex id = g.vertex id)
    (atChosen : g'.vertex chosen = g.vertex chosen) : g'.SplitsAt id before chosen after choices :=
  ⟨atNode ▸ split.conj, atNode ▸ split.children, atChosen ▸ split.disj, atChosen ▸ split.choices⟩

/-! ### Expansions -/

/-- A node of a graph is an expansion over lists of children: a disjunction without value whose
children are conjunctions without value, one per choice, each over the children before, the
choice and the children after. -/
def IsExpansion (g : Graph) (fresh : Nat) (before after choices : List Nat) : Prop :=
  (g.vertex fresh).kind = .or ∧ (g.vertex fresh).value = none ∧
    List.Forall₂ (fun conj choice => g.vertex conj = ⟨.and, none, before ++ choice :: after⟩)
      (g.vertex fresh).children choices

/-- The tree below an expansion is the expansion of the trees below its lists. -/
theorem IsExpansion.subtree_eq (closed : g.Closed) (ranked : g.Ranked rank) {fresh : Nat}
    {before after choices : List Nat} (expansion : g.IsExpansion fresh before after choices) :
    g.subtree fresh =
      expandAround (before.map g.subtree) (after.map g.subtree) (choices.map g.subtree) := by
  obtain ⟨disj, noValue, conjs⟩ := expansion
  rw [Graph.subtree_eq closed ranked fresh, disj, noValue, expandAround, Node.compound,
    List.map_map]
  congr 1
  -- One conjunction per choice, in order.
  generalize (g.vertex fresh).children = conjList at conjs
  induction conjs with
  | nil => rfl
  | cons conjEq _ rest =>
    rw [List.map_cons, List.map_cons, rest, Function.comp_apply, Graph.subtree_eq closed ranked,
      conjEq]
    simp [Node.compound]

/-- An expansion over the split of a conjunction holds where the conjunction does. -/
theorem IsExpansion.holds_eq (closed : g.Closed) (ranked : g.Ranked rank) {fresh id chosen : Nat}
    {before after choices : List Nat} (expansion : g.IsExpansion fresh before after choices)
    (split : g.SplitsAt id before chosen after choices) (present : Option String → Bool) :
    (g.subtree fresh).holds present = (g.subtree id).holds present := by
  rw [expansion.subtree_eq closed ranked, holds_expandAround present _ _ _ (g.vertex id).value
    (g.vertex chosen).value, Graph.subtree_eq closed ranked id, split.conj, split.children,
    List.map_append, List.map_cons, Graph.subtree_eq closed ranked chosen, split.disj,
    split.choices]

/-- An expansion over the split of an unnested conjunction is unnested. -/
theorem IsExpansion.unnested (closed : g.Closed) (ranked : g.Ranked rank) {fresh id chosen : Nat}
    {before after choices : List Nat} (expansion : g.IsExpansion fresh before after choices)
    (split : g.SplitsAt id before chosen after choices)
    (unnested : (g.subtree id).Unnested .free) : (g.subtree fresh).Unnested .free := by
  rw [expansion.subtree_eq closed ranked]
  rw [Graph.subtree_eq closed ranked id, split.conj, split.children, List.map_append,
    List.map_cons, Graph.subtree_eq closed ranked chosen, split.disj, split.choices] at unnested
  exact unnested_expandAround unnested

/-- Two expansions over the same lists unfold to the same tree. -/
theorem IsExpansion.subtree_eq_of (closed : g.Closed) (ranked : g.Ranked rank) {fresh other : Nat}
    {before after choices : List Nat} (expansion : g.IsExpansion fresh before after choices)
    (another : g.IsExpansion other before after choices) : g.subtree other = g.subtree fresh := by
  rw [expansion.subtree_eq closed ranked, another.subtree_eq closed ranked]

/-- Each child of an expansion is the conjunction of one choice. -/
theorem IsExpansion.conj_of_mem {fresh : Nat} {before after choices : List Nat}
    (expansion : g.IsExpansion fresh before after choices) {conj : Nat}
    (member : conj ∈ (g.vertex fresh).children) :
    ∃ choice ∈ choices, g.vertex conj = ⟨.and, none, before ++ choice :: after⟩ := by
  obtain ⟨-, -, conjs⟩ := expansion
  generalize (g.vertex fresh).children = conjList at conjs member
  induction conjs with
  | nil => cases member
  | cons head _ rest =>
    rcases List.mem_cons.mp member with rfl | later
    · exact ⟨_, List.mem_cons_self, head⟩
    · obtain ⟨choice, inside, eq⟩ := rest later
      exact ⟨choice, List.mem_cons_of_mem _ inside, eq⟩

/-- An expansion is a node of the graph, and so are its conjunctions. -/
theorem IsExpansion.lt_size {fresh : Nat} {before after choices : List Nat}
    (expansion : g.IsExpansion fresh before after choices) :
    fresh < g.vertices.size ∧ ∀ conj ∈ (g.vertex fresh).children, conj < g.vertices.size := by
  refine ⟨?_, fun conj member => ?_⟩
  · by_contra beyond
    have disj := expansion.1
    rw [vertex_of_size_le (Nat.le_of_not_lt beyond)] at disj
    cases disj
  · obtain ⟨choice, -, conjEq⟩ := expansion.conj_of_mem member
    by_contra beyond
    rw [vertex_of_size_le (Nat.le_of_not_lt beyond)] at conjEq
    cases conjEq

/-- An expansion stays one where its node and its conjunctions stay. -/
theorem IsExpansion.of_agree {g' : Graph} {fresh : Nat} {before after choices : List Nat}
    (expansion : g.IsExpansion fresh before after choices)
    (atFresh : g'.vertex fresh = g.vertex fresh)
    (atConjs : ∀ conj ∈ (g.vertex fresh).children, g'.vertex conj = g.vertex conj) :
    g'.IsExpansion fresh before after choices := by
  obtain ⟨disj, noValue, conjs⟩ := expansion
  refine ⟨atFresh ▸ disj, atFresh ▸ noValue, ?_⟩
  rw [atFresh]
  generalize (g.vertex fresh).children = conjList at conjs atConjs
  induction conjs with
  | nil => exact .nil
  | cons same _ rest =>
    exact .cons ((atConjs _ List.mem_cons_self).trans same)
      (rest fun conj inside => atConjs conj (List.mem_cons_of_mem _ inside))

/-- Adding one node per choice, in order, as the fold of `expandAt` does. -/
theorem foldl_adds {mk : Nat → Vertex} {step : Graph × List Nat → Nat → Graph × List Nat}
    (stepEq : ∀ graph conjs choice,
      step (graph, conjs) choice = ((graph.add (mk choice)).1, conjs ++ [graph.vertices.size])) :
    ∀ (choices : List Nat) (graph : Graph) (conjs : List Nat),
      choices.foldl step (graph, conjs) =
        (⟨(graph.vertices.toList ++ choices.map mk).toArray, graph.root⟩,
          conjs ++ List.range' graph.vertices.size choices.length)
  | [], graph, conjs => by simp
  | choice :: rest, graph, conjs => by
    rw [List.foldl_cons, stepEq, foldl_adds stepEq rest]
    simp [add, List.range'_succ]

/-- Expanding a node at a position appends a conjunction per choice of the child there, each
with the choice in that child's place, then the disjunction over them, which it returns. -/
theorem expandAt_eq (g : Graph) (id position : Nat) :
    g.expandAt id position =
      (⟨(g.vertices.toList ++
          ((g.vertex ((g.vertex id).children.getD position 0)).children.map fun choice =>
            ({ kind := .and, value := none,
               children := (g.vertex id).children.take position ++
                 choice :: (g.vertex id).children.drop (position + 1) } : Vertex)) ++
          [({ kind := .or, value := none,
              children := List.range' g.vertices.size
                (g.vertex ((g.vertex id).children.getD position 0)).children.length } : Vertex)]
          ).toArray, g.root⟩,
        g.vertices.size + (g.vertex ((g.vertex id).children.getD position 0)).children.length) := by
  simp only [expandAt]
  rw [foldl_adds fun _ _ _ => rfl]
  simp [add]

/-- A graph grown from another: the nodes there were stay, and it is closed and ranked, with
the ranks the old nodes had. -/
structure Grows (g g' : Graph) (rank rank' : Nat → ℚ) : Prop where
  size_le : g.vertices.size ≤ g'.vertices.size
  agree : ∀ id < g.vertices.size, g'.vertex id = g.vertex id
  root : g'.root = g.root
  closed : g'.Closed
  ranked : g'.Ranked rank'
  rankAgree : ∀ id < g.vertices.size, rank' id = rank id

/-- A grown graph keeps the trees below the nodes there were. -/
theorem Grows.subtree {g' : Graph} {rank' : Nat → ℚ} (grows : Grows g g' rank rank')
    (closed : g.Closed) (ranked : g.Ranked rank) {id : Nat} (inside : id < g.vertices.size) :
    g'.subtree id = g.subtree id :=
  subtree_of_agree closed ranked grows.size_le grows.agree inside

theorem Grows.refl (closed : g.Closed) (ranked : g.Ranked rank) : Grows g g rank rank :=
  ⟨le_rfl, fun _ _ => rfl, rfl, closed, ranked, fun _ _ => rfl⟩

theorem Grows.trans {g' g'' : Graph} {rank' rank'' : Nat → ℚ} (first : Grows g g' rank rank')
    (second : Grows g' g'' rank' rank'') : Grows g g'' rank rank'' := by
  have old : ∀ {id}, id < g.vertices.size → id < g'.vertices.size :=
    fun lt => lt_of_lt_of_le lt first.size_le
  exact ⟨first.size_le.trans second.size_le,
    fun id lt => (second.agree id (old lt)).trans (first.agree id lt),
    second.root.trans first.root, second.closed, second.ranked,
    fun id lt => (second.rankAgree id (old lt)).trans (first.rankAgree id lt)⟩

/-- Adding a node whose children are there and rank below it grows a graph. -/
theorem Grows.add (closed : g.Closed) (ranked : g.Ranked rank) {vertex : Vertex} {top : ℚ}
    (inside : ∀ child ∈ vertex.children, child < g.vertices.size)
    (above : ∀ child ∈ vertex.children, rank child < top) :
    Grows g (g.add vertex).1 rank (Function.update rank g.vertices.size top) :=
  ⟨by simp, fun _ lt => vertex_add_of_lt vertex lt, rfl, closed.add inside,
    ranked.add closed inside above, fun _ lt => Function.update_of_ne (Nat.ne_of_lt lt) _ _⟩

/-- Expanding a node of a closed ranked graph at one of its children grows the graph: the new
conjunctions rank as the node, the new disjunction at any rank above it, and the disjunction is
an expansion over the node's children around that child and the child's own children. -/
theorem expandAt_spec (closed : g.Closed) (ranked : g.Ranked rank) {id position : Nat}
    (inside : position < (g.vertex id).children.length) {top : ℚ} (above : rank id < top) :
    ∃ rank', Grows g (g.expandAt id position).1 rank rank' ∧
      g.vertices.size ≤ (g.expandAt id position).2 ∧
      (g.expandAt id position).2 < (g.expandAt id position).1.vertices.size ∧
      rank' (g.expandAt id position).2 = top ∧
      (g.expandAt id position).1.IsExpansion (g.expandAt id position).2
        ((g.vertex id).children.take position) ((g.vertex id).children.drop (position + 1))
        (g.vertex ((g.vertex id).children.getD position 0)).children := by
  rw [expandAt_eq]
  set children := (g.vertex id).children
  set chosen := children.getD position 0
  set choices := (g.vertex chosen).children
  set mk : Nat → Vertex := fun choice =>
    ⟨.and, none, children.take position ++ choice :: children.drop (position + 1)⟩
  set disj : Vertex := ⟨.or, none, List.range' g.vertices.size choices.length⟩
  set grownGraph : Graph := ⟨(g.vertices.toList ++ choices.map mk ++ [disj]).toArray, g.root⟩
  dsimp only
  have grown : grownGraph.vertices.toList = g.vertices.toList ++ (choices.map mk ++ [disj]) := by
    simp [grownGraph]
  have sizeEq := size_of_grown grown
  simp only [List.length_append, List.length_map, List.length_singleton] at sizeEq
  let rank' : Nat → ℚ := fun node =>
    if node < g.vertices.size then rank node
    else if node = g.vertices.size + choices.length then top else rank id
  have rankAgree : ∀ node < g.vertices.size, rank' node = rank node := fun node lt => if_pos lt
  have rankConj : ∀ index < choices.length, rank' (g.vertices.size + index) = rank id := by
    intro index lt
    simp [rank', show index ≠ choices.length by omega]
  -- Every child of a new node is older than it and ranked below it.
  have added : ∀ (index : Nat) (fits : index < (choices.map mk ++ [disj]).length),
      ∀ child ∈ (choices.map mk ++ [disj])[index].children,
        child < g.vertices.size + index ∧ rank' child < rank' (g.vertices.size + index) := by
    intro index fits child member
    simp only [List.length_append, List.length_map, List.length_singleton] at fits
    by_cases isConj : index < choices.length
    · rw [List.getElem_append_left (by simpa using isConj), List.getElem_map] at member
      have old := lt_of_mem_around closed ranked inside (List.getElem_mem isConj) member
      refine ⟨by omega, ?_⟩
      rw [rankAgree child old.1, rankConj index isConj]
      exact old.2
    · have last : index = choices.length := by omega
      subst last
      rw [List.getElem_append_right (by simp)] at member
      simp only [List.length_map, Nat.sub_self, List.getElem_singleton, disj,
        List.mem_range'] at member
      obtain ⟨offset, lt, rfl⟩ := member
      refine ⟨by omega, ?_⟩
      rw [Nat.one_mul, rankConj offset lt]
      simpa [rank'] using above
  obtain ⟨closed', ranked'⟩ := ranked.grown closed grown rankAgree added
  have vertexNew := vertex_of_grown_add grown
  have freshVertex : grownGraph.vertex (g.vertices.size + choices.length) = disj := by
    rw [vertexNew, List.getD_eq_getElem?_getD, List.getElem?_append_right (by simp)]
    simp
  refine ⟨rank', ⟨by omega, fun node lt => ?_, rfl, closed', ranked', rankAgree⟩,
    by omega, by omega, by simp [rank'], by rw [freshVertex], by rw [freshVertex], ?_⟩
  · rw [vertex_of_grown grown, if_pos lt]
  · rw [freshVertex, List.forall₂_iff_get]
    refine ⟨by simp [disj], fun index fits _ => ?_⟩
    simp only [disj, List.length_range'] at fits
    simp only [disj, List.get_eq_getElem, List.getElem_range', Nat.one_mul]
    rw [vertexNew, List.getD_eq_getElem?_getD, List.getElem?_append_left (by simpa using fits)]
    simp [mk, List.getElem?_eq_getElem fits]

end Graph

end Listening.Query
