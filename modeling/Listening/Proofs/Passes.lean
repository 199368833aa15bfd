import Mathlib.Algebra.Order.Field.Rat
import Listening.Proofs.Expansion

/-!
# Normalizing in passes keeps the meaning of unnested queries

A pass walks the graph breadth-first, records for each listed node the last parent and slot
through which the walk reached it, and then visits the listed nodes in order, writing the
expansion of each conjunction into its recorded slot. The slot was recorded before the visits:
a parent spliced by an earlier visit has moved its children, and the write lands on another
child or past the end of the list.

On a query in which no conjunction stands in a conjunction, directly or through disjunctions,
that never happens. No conjunction has a conjunction child, so nothing is spliced; a conjunction
that is expanded stands under a parent that is no conjunction, so no visit changes that parent's
list but the writes into its own slots, each of an expansion of the node recorded there. Every
pass then keeps the graph closed and ranked, its tree unnested and its meaning
(`pass_spec`), and so does the whole run (`normalizeInPasses_holds`). Where a conjunction does
stand in one, the write can take the place of another child: normalizing
`g1 AND g2 AND (((a OR b) AND h) AND e)` in passes loses `g2` (`normalizeInPasses_drops_term`).

The invariant of a pass (`Midway`) relates the graph part-way through the pass to the graph the
pass started from: the nodes a pass never writes (`Steady`) stay as they were, each recorded slot
of a conjunction holds the conjunction or an expansion of it (`SlotHolds`), and every old node
keeps its meaning and how its tree nests.
-/

namespace Listening.Query

namespace Graph

variable {g : Graph}

/-! ### The walk and the table of parents -/

/-- Every node that a walk lists is in its first level or a child of a listed node. -/
theorem mem_walkFrom {depth : Nat} {level : List Nat} {id : Nat}
    (listed : id ∈ g.walkFrom depth level) :
    id ∈ level ∨ ∃ parent ∈ g.walkFrom depth level, id ∈ (g.vertex parent).children := by
  induction depth generalizing level with
  | zero => cases listed
  | succ depth deeper =>
    by_cases empty : level.isEmpty = true
    · rw [walkFrom, if_pos empty] at listed
      cases listed
    rw [walkFrom, if_neg empty] at listed ⊢
    rcases List.mem_append.mp listed with first | later
    · exact .inl first
    · right
      rcases deeper later with inNext | ⟨parent, inWalk, child⟩
      · obtain ⟨parent, inLevel, child⟩ := List.mem_flatMap.mp inNext
        exact ⟨parent, List.mem_append_left _ inLevel, child⟩
      · exact ⟨parent, List.mem_append_right _ inWalk, child⟩

/-- A property of the first level that children inherit holds of every node the walk lists. -/
theorem walkFrom_inherits {motive : Nat → Prop}
    (inherits : ∀ id, motive id → ∀ child ∈ (g.vertex id).children, motive child) :
    ∀ {depth : Nat} {level : List Nat}, (∀ first ∈ level, motive first) →
      ∀ id ∈ g.walkFrom depth level, motive id
  | 0, _, _, _, listed => by cases listed
  | depth + 1, level, first, id, listed => by
    by_cases empty : level.isEmpty = true
    · rw [walkFrom, if_pos empty] at listed
      cases listed
    rw [walkFrom, if_neg empty] at listed
    rcases List.mem_append.mp listed with inLevel | later
    · exact first id inLevel
    · refine walkFrom_inherits inherits (fun next member => ?_) id later
      obtain ⟨parent, inLevel, child⟩ := List.mem_flatMap.mp member
      exact inherits parent (first parent inLevel) next child

/-- A property kept by every step of a fold holds after it. -/
theorem foldl_keeps {α β : Type} {motive : β → Prop} {step : β → α → β} :
    ∀ (items : List α) {init : β}, motive init →
      (∀ acc item, item ∈ items → motive acc → motive (step acc item)) →
      motive (items.foldl step init)
  | [], _, holds, _ => holds
  | item :: rest, _, holds, keeps =>
    foldl_keeps rest (keeps _ item List.mem_cons_self holds)
      fun acc other member => keeps acc other (List.mem_cons_of_mem _ member)

theorem getD_setIfInBounds (table : Array (Option (Nat × Nat))) (index other : Nat)
    (entry : Option (Nat × Nat)) :
    (table.setIfInBounds index entry).getD other none =
      if index = other ∧ index < table.size then entry else table.getD other none := by
  simp only [Array.getD_eq_getD_getElem?, Array.getElem?_setIfInBounds]
  by_cases same : index = other
  · subst same
    by_cases inside : index < table.size
    · simp [inside]
    · simp [inside]
  · simp [same]

/-- The entries that one listed node writes into the table: each child gets the node and its
position. -/
def recordChildren (g : Graph) (table : Array (Option (Nat × Nat))) (id : Nat) :
    Array (Option (Nat × Nat)) :=
  ((g.vertex id).children.zipIdx).foldl
    (fun table pair => table.setIfInBounds pair.1 (some (id, pair.2))) table

theorem parents_eq_foldl (g : Graph) (order : List Nat) :
    g.parents order = order.foldl g.recordChildren (Array.replicate g.vertices.size none) := rfl

/-- Recording keeps the size of the table and the entries it has, and gives an entry to every
child that is a node of the table. -/
theorem recordChildren_isSome (table : Array (Option (Nat × Nat))) (id child : Nat)
    (before : (table.getD child none).isSome ∨
      child ∈ (g.vertex id).children ∧ child < table.size) :
    (g.recordChildren table id).size = table.size ∧
      ((g.recordChildren table id).getD child none).isSome := by
  unfold recordChildren
  obtain written | ⟨member, inside⟩ := before
  · -- Every write keeps the size and an entry once written.
    refine foldl_keeps (motive := fun acc : Array (Option (Nat × Nat)) =>
      acc.size = table.size ∧ (acc.getD child none).isSome)
      _ ⟨rfl, written⟩ fun acc pair _ kept => ⟨by simpa using kept.1, ?_⟩
    rw [getD_setIfInBounds]
    split
    · rfl
    · exact kept.2
  · obtain ⟨slot, found⟩ := List.mem_iff_getElem?.mp member
    have pairMember : (child, slot) ∈ (g.vertex id).children.zipIdx :=
      List.mem_zipIdx_iff_getElem?.mpr found
    obtain ⟨early, late, split⟩ := List.append_of_mem pairMember
    rw [split, List.foldl_append, List.foldl_cons]
    have sized : (early.foldl (fun table pair => table.setIfInBounds pair.1 (some (id, pair.2)))
        table).size = table.size :=
      foldl_keeps (motive := fun acc : Array (Option (Nat × Nat)) => acc.size = table.size) early
        rfl fun acc pair _ kept => by simpa using kept
    refine foldl_keeps (motive := fun acc : Array (Option (Nat × Nat)) =>
      acc.size = table.size ∧ (acc.getD child none).isSome)
      late ⟨by simpa using sized, ?_⟩ fun acc pair _ kept => ⟨by simpa using kept.1, ?_⟩
    · rw [getD_setIfInBounds, if_pos ⟨rfl, sized ▸ inside⟩]
      rfl
    · rw [getD_setIfInBounds]
      split
      · rfl
      · exact kept.2

/-- An entry of the table names a listed parent and the child's position in it. -/
theorem parents_eq_some {order : List Nat} {child owner slot : Nat}
    (found : (g.parents order).getD child none = some (owner, slot)) :
    owner ∈ order ∧ (g.vertex owner).children[slot]? = some child := by
  -- Each write puts a listed node and the position of the child in it.
  let Recorded : Array (Option (Nat × Nat)) → Prop := fun table =>
    ∀ child owner slot, table.getD child none = some (owner, slot) →
      owner ∈ order ∧ (g.vertex owner).children[slot]? = some child
  have initial : Recorded (Array.replicate g.vertices.size none) := by
    intro child owner slot entry
    rw [Array.getD_eq_getD_getElem?, Array.getElem?_replicate] at entry
    split at entry <;> simp at entry
  rw [parents_eq_foldl] at found
  refine foldl_keeps (motive := Recorded) order initial (fun table id listed recorded => ?_) child
    owner slot found
  refine foldl_keeps (motive := Recorded) _ recorded (fun table pair member kept => ?_)
  intro child owner slot entry
  rw [getD_setIfInBounds] at entry
  split at entry
  · rename_i same
    obtain ⟨rfl, -⟩ := same
    obtain ⟨rfl, rfl⟩ := Prod.mk.inj (Option.some.inj entry)
    exact ⟨listed, List.mem_zipIdx_iff_getElem?.mp member⟩
  · exact kept child owner slot entry

/-- A child of a listed node that is a node of the graph has an entry in the table. -/
theorem parents_isSome {order : List Nat} {owner child : Nat} (listed : owner ∈ order)
    (member : child ∈ (g.vertex owner).children) (inside : child < g.vertices.size) :
    ((g.parents order).getD child none).isSome := by
  rw [parents_eq_foldl]
  -- The table keeps its size, and the entry is written at the owner and kept after it.
  suffices kept : ∀ (rest : List Nat) (table : Array (Option (Nat × Nat))),
      table.size = g.vertices.size → ((table.getD child none).isSome ∨ owner ∈ rest) →
      ((rest.foldl g.recordChildren table).getD child none).isSome from
    kept order _ (by simp) (.inr listed)
  intro rest
  induction rest with
  | nil =>
    intro table _ before
    exact before.resolve_right (List.not_mem_nil)
  | cons id rest later =>
    intro table sized before
    rw [List.foldl_cons]
    have recorded := recordChildren_isSome (g := g) table id child
    by_cases here : id = owner
    · subst here
      have now := recorded (.inr ⟨member, sized ▸ inside⟩)
      exact later _ (now.1.trans sized) (.inl now.2)
    · rcases before with written | there
      · have now := recorded (.inl written)
        exact later _ (now.1.trans sized) (.inl now.2)
      · have sizedAfter : (g.recordChildren table id).size = g.vertices.size := by
          unfold recordChildren
          refine foldl_keeps (motive := fun acc : Array (Option (Nat × Nat)) =>
            acc.size = g.vertices.size) _ sized fun acc pair _ kept => by simpa using kept
        exact later _ sizedAfter (.inr ((List.mem_cons.mp there).resolve_left (Ne.symm here)))

/-! ### What a pass starts from -/

/-- What a pass starts from and leaves: a closed ranked graph whose root is a node and whose
tree is unnested. -/
structure Sound (g : Graph) : Prop where
  closed : g.Closed
  ranked : ∃ rank, g.Ranked rank
  root_lt : g.root < g.vertices.size
  unnested : (g.subtree g.root).Unnested .free

/-- The walk lists the root, then children of listed nodes. -/
theorem mem_walk {id : Nat} (listed : id ∈ g.walk) :
    id = g.root ∨ ∃ parent ∈ g.walk, id ∈ (g.vertex parent).children := by
  rcases mem_walkFrom listed with first | later
  · exact .inl (List.mem_singleton.mp first)
  · exact .inr later

/-- A listed node for which the walk recorded no parent is the root. -/
theorem eq_root_of_unrecorded {id : Nat} (listed : id ∈ g.walk) (inside : id < g.vertices.size)
    (unrecorded : (g.parents g.walk).getD id none = none) : id = g.root := by
  rcases mem_walk listed with root | ⟨parent, parentListed, member⟩
  · exact root
  · have recorded := parents_isSome parentListed member inside
    rw [unrecorded] at recorded
    cases recorded

/-- Every listed node is a node of a closed graph whose root is one. -/
theorem lt_size_of_mem_walk (closed : g.Closed) (rootLt : g.root < g.vertices.size) {id : Nat}
    (listed : id ∈ g.walk) : id < g.vertices.size :=
  walkFrom_inherits (motive := (· < g.vertices.size))
    (fun id _ child member => closed id child member)
    (fun _ member => (List.mem_singleton.mp member) ▸ rootLt) id listed

section Nesting

variable {rank : Nat → ℚ} (closed : g.Closed) (ranked : g.Ranked rank)
include closed ranked

/-- The children of a node stand at the place its kind gives them. -/
theorem unnested_child {place : Place} {id child : Nat} (unnested : (g.subtree id).Unnested place)
    (member : child ∈ (g.vertex id).children) :
    (g.subtree child).Unnested (place.below (g.vertex id).kind) := by
  rw [subtree_eq closed ranked id, Node.unnested_mk] at unnested
  exact unnested.2 _ (List.mem_map_of_mem member)

/-- A conjunction stands nowhere but free. -/
theorem free_of_conj {place : Place} {id : Nat} (unnested : (g.subtree id).Unnested place)
    (conj : (g.vertex id).kind = .and) : place = .free := by
  rw [subtree_eq closed ranked id] at unnested
  exact unnested.free_of_and conj

/-- The tree below every listed node is unnested at some place. -/
theorem unnested_of_mem_walk (rootUnnested : (g.subtree g.root).Unnested .free) {id : Nat}
    (listed : id ∈ g.walk) : ∃ place, (g.subtree id).Unnested place := by
  refine walkFrom_inherits (motive := fun id => ∃ place, (g.subtree id).Unnested place)
    (fun id ⟨_, unnested⟩ child member => ⟨_, unnested_child closed ranked unnested member⟩)
    (fun first member => ?_) id listed
  rw [List.mem_singleton.mp member]
  exact ⟨_, rootUnnested⟩

/-- A conjunction standing free has no conjunction child, and neither have its disjunction
children. -/
theorem conj_children_of_free {id : Nat} (unnested : (g.subtree id).Unnested .free)
    (conj : (g.vertex id).kind = .and) {child : Nat} (member : child ∈ (g.vertex id).children) :
    (g.vertex child).kind ≠ .and ∧
      ((g.vertex child).kind = .or → ∀ grand ∈ (g.vertex child).children,
        (g.vertex grand).kind ≠ .and) := by
  have inConj := unnested_child closed ranked unnested member
  rw [conj, Place.below] at inConj
  constructor
  · intro isConj
    cases free_of_conj closed ranked inConj isConj
  · intro disj grand inside isConj
    have below := unnested_child closed ranked inConj inside
    rw [disj, Place.below] at below
    cases free_of_conj closed ranked below isConj

/-- A listed conjunction stands free. -/
theorem free_of_mem_walk (rootUnnested : (g.subtree g.root).Unnested .free) {id : Nat}
    (listed : id ∈ g.walk) (conj : (g.vertex id).kind = .and) : (g.subtree id).Unnested .free := by
  obtain ⟨place, unnested⟩ := unnested_of_mem_walk closed ranked rootUnnested listed
  obtain rfl := free_of_conj closed ranked unnested conj
  exact unnested

/-- The parent the walk recorded for a conjunction is no conjunction. -/
theorem owner_kind_ne_and (rootUnnested : (g.subtree g.root).Unnested .free)
    {id owner slot : Nat} (found : (g.parents g.walk).getD id none = some (owner, slot))
    (conj : (g.vertex id).kind = .and) : (g.vertex owner).kind ≠ .and := by
  obtain ⟨ownerListed, atSlot⟩ := parents_eq_some found
  intro ownerConj
  have ownerFree := free_of_mem_walk closed ranked rootUnnested ownerListed ownerConj
  have below := unnested_child closed ranked ownerFree (List.mem_of_getElem? atSlot)
  rw [ownerConj, Place.below] at below
  cases free_of_conj closed ranked below conj

end Nesting

/-- A node whose children a pass never writes: a conjunction, or a node without conjunction
children. -/
def Steady (g : Graph) (id : Nat) : Prop :=
  (g.vertex id).kind = .and ∨ ∀ child ∈ (g.vertex id).children, (g.vertex child).kind ≠ .and

/-- The expansion of a node at its first disjunction child, over the node's lists in a graph. -/
def ExpandsFirst (start g : Graph) (fresh id : Nat) : Prop :=
  ∃ position, start.firstOr? id = some position ∧
    g.IsExpansion fresh ((start.vertex id).children.take position)
      ((start.vertex id).children.drop (position + 1))
      (start.vertex ((start.vertex id).children.getD position 0)).children

/-- The slot a pass recorded for a node holds the node, or an expansion of it added during the
pass. -/
def SlotHolds (start g : Graph) (child owner slot : Nat) : Prop :=
  ∃ current, (g.vertex owner).children[slot]? = some current ∧
    (current = child ∨ start.vertices.size ≤ current ∧ ExpandsFirst start g current child)

/-- The graph part-way through a pass that started from `start`, with ranks `rank` and the table
of parents `table`. -/
structure Midway (start : Graph) (rank : Nat → ℚ) (table : Array (Option (Nat × Nat)))
    (g : Graph) : Prop where
  closed : g.Closed
  ranked : ∃ rank', g.Ranked rank' ∧ ∀ id < start.vertices.size, rank' id = rank id
  size_le : start.vertices.size ≤ g.vertices.size
  kinds : ∀ id < start.vertices.size, (g.vertex id).kind = (start.vertex id).kind
  steady : ∀ id < start.vertices.size, start.Steady id → g.vertex id = start.vertex id
  slots : ∀ child owner slot, table.getD child none = some (owner, slot) →
    (start.vertex child).kind = .and → SlotHolds start g child owner slot
  holds : ∀ present, ∀ id < start.vertices.size,
    (g.subtree id).holds present = (start.subtree id).holds present
  unnested : ∀ id < start.vertices.size, ∀ place,
    (start.subtree id).Unnested place → (g.subtree id).Unnested place
  root_lt : g.root < g.vertices.size
  rootUnnested : (g.subtree g.root).Unnested .free
  rootHolds : ∀ present,
    (g.subtree g.root).holds present = (start.subtree start.root).holds present

/-- A pass starts midway from where it starts. -/
theorem Midway.initial {start : Graph} (sound : start.Sound) {rank : Nat → ℚ}
    (ranked : start.Ranked rank) (order : List Nat) :
    Midway start rank (start.parents order) start where
  closed := sound.closed
  ranked := ⟨rank, ranked, fun _ _ => rfl⟩
  size_le := le_rfl
  kinds := fun _ _ => rfl
  steady := fun _ _ _ => rfl
  slots := fun _ _ _ found _ => ⟨_, (parents_eq_some found).2, .inl rfl⟩
  holds := fun _ _ _ => rfl
  unnested := fun _ _ _ unnested => unnested
  root_lt := sound.root_lt
  rootUnnested := sound.unnested
  rootHolds := fun _ => rfl

/-! ### One visit -/

theorem findIdx?_congr {α : Type} {test test' : α → Bool} :
    ∀ {items : List α}, (∀ item ∈ items, test item = test' item) →
      items.findIdx? test = items.findIdx? test'
  | [], _ => rfl
  | item :: rest, same => by
    rw [List.findIdx?_cons, List.findIdx?_cons, same item List.mem_cons_self,
      findIdx?_congr fun other member => same other (List.mem_cons_of_mem _ member)]

/-- The first disjunction child is found alike where a node and the kinds of its children are
alike. -/
theorem firstOr?_of_agree {g' : Graph} {id : Nat} (atNode : g'.vertex id = g.vertex id)
    (kinds : ∀ child ∈ (g.vertex id).children, (g'.vertex child).kind = (g.vertex child).kind) :
    g'.firstOr? id = g.firstOr? id := by
  unfold firstOr?
  rw [atNode]
  exact findIdx?_congr fun child member => by rw [kinds child member]

theorem replace_some {owner slot fresh : Nat} (inside : slot < (g.vertex owner).children.length) :
    g.replace (some (owner, slot)) fresh = .ok (g.writeSlot owner slot fresh) := by
  simp [replace, inside, writeSlot]

/-- Two expansions of a node at its first disjunction child unfold to the same tree. -/
theorem ExpandsFirst.subtree_eq {start : Graph} {rank : Nat → ℚ} (closed : g.Closed)
    (ranked : g.Ranked rank) {fresh other id : Nat} (first : ExpandsFirst start g fresh id)
    (second : ExpandsFirst start g other id) : g.subtree other = g.subtree fresh := by
  obtain ⟨position, found, expansion⟩ := first
  obtain ⟨position', found', expansion'⟩ := second
  obtain rfl := Option.some.inj (found'.symm.trans found)
  exact expansion.subtree_eq_of closed ranked expansion'

/-- A write into a parent that is no conjunction keeps every expansion that does not stand at
the parent: the conjunctions of an expansion are not the parent either. -/
theorem ExpandsFirst.writeSlot {start : Graph} {candidate child owner slot fresh : Nat}
    (expands : ExpandsFirst start g candidate child) (apart : candidate ≠ owner)
    (ownerKind : (g.vertex owner).kind ≠ .and) :
    ExpandsFirst start (g.writeSlot owner slot fresh) candidate child := by
  obtain ⟨position, first, expansion⟩ := expands
  refine ⟨position, first, expansion.of_agree (vertex_writeSlot_of_ne apart) fun conj member => ?_⟩
  refine vertex_writeSlot_of_ne fun same => ownerKind ?_
  obtain ⟨choice, -, conjEq⟩ := expansion.conj_of_mem member
  rw [← same, conjEq]

section Steps

variable {start : Graph} {rank : Nat → ℚ} {table : Array (Option (Nat × Nat))}

/-- Adding nodes keeps a pass midway. -/
theorem Midway.grow {g' : Graph} {rank' rank'' : Nat → ℚ} (midway : Midway start rank table g)
    (ranked : g.Ranked rank') (agree : ∀ id < start.vertices.size, rank' id = rank id)
    (grows : Grows g g' rank' rank'') : Midway start rank table g' := by
  have old : ∀ {id}, id < start.vertices.size → id < g.vertices.size :=
    fun lt => lt_of_lt_of_le lt midway.size_le
  have same : ∀ {id}, id < g.vertices.size → g'.subtree id = g.subtree id :=
    fun lt => grows.subtree midway.closed ranked lt
  refine ⟨grows.closed, ⟨rank'', grows.ranked, fun id lt =>
      (grows.rankAgree id (old lt)).trans (agree id lt)⟩,
    midway.size_le.trans grows.size_le, fun id lt => ?_, fun id lt steady => ?_,
    fun child owner slot found conj => ?_, fun present id lt => ?_,
    fun id lt place unnested => ?_, ?_, ?_, fun present => ?_⟩
  · rw [grows.agree id (old lt)]
    exact midway.kinds id lt
  · rw [grows.agree id (old lt)]
    exact midway.steady id lt steady
  · obtain ⟨current, atSlot, either⟩ := midway.slots child owner slot found conj
    have ownerLt := lt_size_of_mem_children (List.mem_of_getElem? atSlot)
    refine ⟨current, by rwa [grows.agree owner ownerLt], ?_⟩
    rcases either with same | ⟨fresh, position, first, expansion⟩
    · exact .inl same
    · refine .inr ⟨fresh, position, first, expansion.of_agree ?_ fun conj member => ?_⟩
      · exact grows.agree _ expansion.lt_size.1
      · exact grows.agree _ (expansion.lt_size.2 conj member)
  · rw [same (old lt)]
    exact midway.holds present id lt
  · rw [same (old lt)]
    exact midway.unnested id lt place unnested
  · rw [grows.root]
    exact lt_of_lt_of_le midway.root_lt grows.size_le
  · rw [grows.root, same midway.root_lt]
    exact midway.rootUnnested
  · rw [grows.root, same midway.root_lt]
    exact midway.rootHolds present

/-- A new root that is unnested and has the meaning of the old keeps a pass midway. -/
theorem Midway.setRoot (midway : Midway start rank table g) {fresh : Nat}
    (inside : fresh < g.vertices.size) (unnested : (g.subtree fresh).Unnested .free)
    (holds : ∀ present,
      (g.subtree fresh).holds present = (start.subtree start.root).holds present) :
    Midway start rank table { g with root := fresh } :=
  ⟨midway.closed, midway.ranked, midway.size_le, midway.kinds, midway.steady, midway.slots,
    fun present id lt => by rw [subtree_setRoot]; exact midway.holds present id lt,
    fun id lt place unnested => by rw [subtree_setRoot]; exact midway.unnested id lt place unnested,
    inside, by rw [subtree_setRoot]; exact unnested,
    fun present => by rw [subtree_setRoot]; exact holds present⟩

/-- A write into the slot recorded for a conjunction, of an expansion of it, makes that slot
hold the expansion and keeps what every other recorded slot holds. -/
theorem Midway.slotHolds_writeSlot (midway : Midway start rank table g)
    (recorded : ∀ child owner slot, table.getD child none = some (owner, slot) →
      (start.vertex owner).children[slot]? = some child)
    {id owner slot fresh : Nat} (found : table.getD id none = some (owner, slot))
    (ownerLt : owner < start.vertices.size) (ownerKind : (start.vertex owner).kind ≠ .and)
    (slotLt : slot < (g.vertex owner).children.length) (freshOld : start.vertices.size ≤ fresh)
    (expands : ExpandsFirst start g fresh id) {child parent position : Nat}
    (entry : table.getD child none = some (parent, position))
    (childConj : (start.vertex child).kind = .and) :
    SlotHolds start (g.writeSlot owner slot fresh) child parent position := by
  obtain ⟨other, otherSlot, otherEither⟩ := midway.slots child parent position entry childConj
  -- Expansions added during the pass are not the parent, which is an old node.
  have keep : ∀ candidate, start.vertices.size ≤ candidate →
      ExpandsFirst start g candidate child →
      ExpandsFirst start (g.writeSlot owner slot fresh) candidate child :=
    fun candidate newer expansion => expansion.writeSlot (by omega)
      (by rwa [midway.kinds owner ownerLt])
  by_cases here : parent = owner ∧ position = slot
  · obtain ⟨rfl, rfl⟩ := here
    have sameChild : child = id :=
      Option.some.inj ((recorded child parent position entry).symm.trans
        (recorded id parent position found))
    subst sameChild
    refine ⟨fresh, ?_, .inr ⟨freshOld, keep fresh freshOld expands⟩⟩
    rw [vertex_writeSlot_self]
    exact List.getElem?_set_self slotLt
  · refine ⟨other, ?_, otherEither.imp_right fun ⟨newer, expansion⟩ =>
      ⟨newer, keep other newer expansion⟩⟩
    rw [vertex_writeSlot]
    split
    · rename_i same
      subst same
      rw [List.getElem?_set_ne fun eq => here ⟨rfl, eq.symm⟩]
      exact otherSlot
    · exact otherSlot

/-- Writing an expansion of a conjunction into the slot recorded for it keeps a pass midway,
when the parent is no conjunction: the slot held the conjunction or an expansion of it. -/
theorem Midway.write {rank' : Nat → ℚ} (midway : Midway start rank table g)
    (ranked : g.Ranked rank') (agree : ∀ id < start.vertices.size, rank' id = rank id)
    (recorded : ∀ child owner slot, table.getD child none = some (owner, slot) →
      (start.vertex owner).children[slot]? = some child)
    {id owner slot fresh : Nat} (found : table.getD id none = some (owner, slot))
    (conj : (start.vertex id).kind = .and) (ownerLt : owner < start.vertices.size)
    (ownerKind : (start.vertex owner).kind ≠ .and) (idKind : (g.vertex id).kind = .and)
    (freshOld : start.vertices.size ≤ fresh) (freshLt : fresh < g.vertices.size)
    (lower : rank' fresh < rank' owner) (expands : ExpandsFirst start g fresh id)
    (holdsFresh : ∀ present, (g.subtree fresh).holds present = (g.subtree id).holds present)
    (unnestedFresh : (g.subtree id).Unnested .free → (g.subtree fresh).Unnested .free) :
    Midway start rank table (g.writeSlot owner slot fresh) := by
  have closed := midway.closed
  obtain ⟨current, atSlot, either⟩ := midway.slots id owner slot found conj
  have slotLt : slot < (g.vertex owner).children.length :=
    (List.getElem?_eq_some_iff.mp atSlot).1
  -- The slot held the conjunction, or an expansion that unfolds as the new one does.
  have atSlotTree : ∀ old, (g.vertex owner).children[slot]? = some old →
      old = id ∨ g.subtree old = g.subtree fresh := by
    intro old found'
    obtain rfl := Option.some.inj (found'.symm.trans atSlot)
    rcases either with same | ⟨-, expansion⟩
    · exact .inl same
    · exact .inr (expands.subtree_eq closed ranked expansion)
  have holdsRelated : ∀ present id,
      ((g.writeSlot owner slot fresh).subtree id).holds present = (g.subtree id).holds present :=
    fun present => related_subtree_writeSlot closed ranked freshLt lower
      (Node.holds_congruent present) fun old found' => by
        rcases atSlotTree old found' with rfl | same
        · exact holdsFresh present
        · rw [same]
  have unnestedRelated : ∀ id place, (g.subtree id).Unnested place →
      ((g.writeSlot owner slot fresh).subtree id).Unnested place :=
    fun id => related_subtree_writeSlot closed ranked freshLt lower Node.unnested_congruent
      (fun old found' place unnested => by
        rcases atSlotTree old found' with rfl | same
        · obtain rfl := free_of_conj closed ranked unnested idKind
          exact unnestedFresh unnested
        · rwa [← same]) id
  -- The parent is written, so it is no steady node.
  have notSteady : ¬ start.Steady owner := by
    rintro (isConj | noConj)
    · exact ownerKind isConj
    · exact noConj id (List.mem_of_getElem? (recorded id owner slot found)) conj
  refine ⟨closed.writeSlot freshLt, ⟨rank', ranked.writeSlot lower, agree⟩,
    by simpa using midway.size_le, fun node lt => ?_, fun node lt steady => ?_,
    fun child parent position entry childConj => ?_, fun present node lt => ?_,
    fun node lt place unnested => ?_, by simpa using midway.root_lt, ?_, fun present => ?_⟩
  · rw [kind_writeSlot]
    exact midway.kinds node lt
  · have ne : node ≠ owner := fun same => notSteady (same ▸ steady)
    rw [vertex_writeSlot_of_ne ne]
    exact midway.steady node lt steady
  · exact midway.slotHolds_writeSlot recorded found ownerLt ownerKind slotLt freshOld expands
      entry childConj
  · rw [holdsRelated]
    exact midway.holds present node lt
  · exact unnestedRelated node place (midway.unnested node lt place unnested)
  · exact unnestedRelated _ _ midway.rootUnnested
  · rw [root_writeSlot, holdsRelated]
    exact midway.rootHolds present

end Steps

/-- A graph grown from `g` by an expansion `fresh`, of rank `top`, of the conjunction `id` at its
first disjunction child, that holds where the conjunction does and is unnested where it is. -/
structure ExpandedAt (start g g' : Graph) (rank' rank'' : Nat → ℚ) (id fresh : Nat) (top : ℚ) :
    Prop where
  grows : Grows g g' rank' rank''
  fresh_old : start.vertices.size ≤ fresh
  fresh_lt : fresh < g'.vertices.size
  rank_fresh : rank'' fresh = top
  expands : ExpandsFirst start g' fresh id
  holds : ∀ present, (g'.subtree fresh).holds present = (g'.subtree id).holds present
  unnested : (g'.subtree id).Unnested .free → (g'.subtree fresh).Unnested .free

/-! ### Passes -/

section Visit

variable {start : Graph} (sound : start.Sound) {rank : Nat → ℚ} (ranked : start.Ranked rank)
  {g : Graph} (midway : Midway start rank (start.parents start.walk) g) {id : Nat}
  (listed : id ∈ start.walk) (conj : (start.vertex id).kind = .and)
include sound midway listed conj

/-- Part-way through a pass, a listed conjunction and its children are as the pass found them. -/
theorem Midway.listed_conj :
    g.vertex id = start.vertex id ∧ ∀ child ∈ (start.vertex id).children,
      (g.vertex child).kind = (start.vertex child).kind := by
  have idLt := lt_size_of_mem_walk sound.closed sound.root_lt listed
  exact ⟨midway.steady id idLt (.inl conj),
    fun child member => midway.kinds child (sound.closed id child member)⟩

/-- A visit finds the disjunction child of a listed conjunction the pass found at its start. -/
theorem Midway.firstOr?_listed : g.firstOr? id = start.firstOr? id :=
  have ⟨steadyId, childKind⟩ := midway.listed_conj sound listed conj
  firstOr?_of_agree steadyId childKind

include ranked

/-- A visit splices no listed conjunction: none has a conjunction child. -/
theorem Midway.spliceAt_listed : g.spliceAt id = (g, false) := by
  obtain ⟨steadyId, childKind⟩ := midway.listed_conj sound listed conj
  have free := free_of_mem_walk sound.closed ranked sound.unnested listed conj
  refine spliceAt_of_forall_ne_and fun child member => ?_
  rw [steadyId] at member
  rw [childKind child member]
  exact (conj_children_of_free sound.closed ranked free conj member).1

/-- Expanding a listed conjunction part-way through a pass gives an expansion of it over the
lists the pass found, at any rank above the conjunction's. -/
theorem Midway.expandAt_listed {position : Nat} (found : start.firstOr? id = some position)
    {rank' : Nat → ℚ} (rankedG : g.Ranked rank') {top : ℚ} (above : rank' id < top) :
    ∃ rank'', ExpandedAt start g (g.expandAt id position).1 rank' rank'' id
      (g.expandAt id position).2 top := by
  have closed := sound.closed
  have idLt := lt_size_of_mem_walk closed sound.root_lt listed
  obtain ⟨steadyId, -⟩ := midway.listed_conj sound listed conj
  have free := free_of_mem_walk closed ranked sound.unnested listed conj
  have split := splitsAt_of_firstOr conj found
  have inside := lt_length_of_firstOr found
  -- The disjunction child is as the pass found it too: it has no conjunction child.
  have chosenMember := getD_mem_children inside
  have chosenLt := closed id _ chosenMember
  have steadyChosen : g.vertex ((start.vertex id).children.getD position 0) =
      start.vertex ((start.vertex id).children.getD position 0) :=
    midway.steady _ chosenLt
      (.inr ((conj_children_of_free closed ranked free conj chosenMember).2 split.disj))
  obtain ⟨rank'', grows, freshOld, freshLt, rankFresh, expansion⟩ :=
    expandAt_spec midway.closed rankedG (steadyId ▸ inside) above
  rw [steadyId, steadyChosen] at expansion
  have splitNow := split.of_agree
    ((grows.agree id (lt_of_lt_of_le idLt midway.size_le)).trans steadyId)
    ((grows.agree _ (lt_of_lt_of_le chosenLt midway.size_le)).trans steadyChosen)
  exact ⟨rank'', grows, midway.size_le.trans freshOld, freshLt, rankFresh,
    ⟨position, found, expansion⟩, expansion.holds_eq grows.closed grows.ranked splitNow,
    expansion.unnested grows.closed grows.ranked splitNow⟩

/-- Expanding the listed conjunction that the walk reached first, the root, and making the
expansion the root keeps a pass midway. -/
theorem Midway.expandRoot {position : Nat} (found : start.firstOr? id = some position)
    (unrecorded : (start.parents start.walk).getD id none = none) :
    Midway start rank (start.parents start.walk)
      { (g.expandAt id position).1 with root := (g.expandAt id position).2 } := by
  have idLt := lt_size_of_mem_walk sound.closed sound.root_lt listed
  obtain ⟨rank', rankedG, agree⟩ := midway.ranked
  obtain ⟨rank'', expanded⟩ :=
    midway.expandAt_listed sound ranked listed conj found rankedG (lt_add_one (rank' id))
  have grown := midway.grow rankedG agree expanded.grows
  have free := free_of_mem_walk sound.closed ranked sound.unnested listed conj
  refine grown.setRoot expanded.fresh_lt (expanded.unnested (grown.unnested id idLt .free free))
    fun present => ?_
  rw [expanded.holds, grown.holds present id idLt, eq_root_of_unrecorded listed idLt unrecorded]

/-- The expansion of a listed conjunction with a recorded parent, ranked halfway between the
conjunction and the parent, below the one and above the other. -/
theorem Midway.expandBelowOwner {position : Nat} (found : start.firstOr? id = some position)
    {owner slot : Nat} (entry : (start.parents start.walk).getD id none = some (owner, slot)) :
    ∃ rank' rank'', g.Ranked rank' ∧ (∀ node < start.vertices.size, rank' node = rank node) ∧
      ExpandedAt start g (g.expandAt id position).1 rank' rank'' id (g.expandAt id position).2
        ((rank' id + rank' owner) / 2) ∧
      rank'' (g.expandAt id position).2 < rank'' owner := by
  have idLt := lt_size_of_mem_walk sound.closed sound.root_lt listed
  have idMember := List.mem_of_getElem? (parents_eq_some entry).2
  have ownerLt := lt_size_of_mem_children idMember
  obtain ⟨rank', rankedG, agree⟩ := midway.ranked
  have rankLt : rank' id < rank' owner := by
    rw [agree id idLt, agree owner ownerLt]
    exact ranked owner id idMember
  obtain ⟨rank'', expanded⟩ :=
    midway.expandAt_listed sound ranked listed conj found rankedG (left_lt_add_div_two.mpr rankLt)
  refine ⟨rank', rank'', rankedG, agree, expanded, ?_⟩
  rw [expanded.rank_fresh, expanded.grows.rankAgree owner (lt_of_lt_of_le ownerLt midway.size_le)]
  exact add_div_two_lt_right.mpr rankLt

/-- Expanding a listed conjunction and writing the expansion into the slot the walk recorded
for it keeps a pass midway. -/
theorem Midway.expandIntoSlot {position : Nat} (found : start.firstOr? id = some position)
    {owner slot : Nat} (entry : (start.parents start.walk).getD id none = some (owner, slot)) :
    slot < ((g.expandAt id position).1.vertex owner).children.length ∧
      Midway start rank (start.parents start.walk)
        ((g.expandAt id position).1.writeSlot owner slot (g.expandAt id position).2) := by
  have idLt := lt_size_of_mem_walk sound.closed sound.root_lt listed
  have ownerLt := lt_size_of_mem_children (List.mem_of_getElem? (parents_eq_some entry).2)
  obtain ⟨rank', rank'', rankedG, agree, expanded, lower⟩ :=
    midway.expandBelowOwner sound ranked listed conj found entry
  have grown := midway.grow rankedG agree expanded.grows
  obtain ⟨current, atSlot, -⟩ := grown.slots id owner slot entry conj
  refine ⟨(List.getElem?_eq_some_iff.mp atSlot).1, ?_⟩
  refine grown.write expanded.grows.ranked ?_ (fun _ _ _ found => (parents_eq_some found).2)
    entry conj ownerLt (owner_kind_ne_and sound.closed ranked sound.unnested entry conj) ?_
    expanded.fresh_old expanded.fresh_lt lower expanded.expands expanded.holds expanded.unnested
  · intro node lt
    rw [expanded.grows.rankAgree node (lt_of_lt_of_le lt midway.size_le), agree node lt]
  · rw [expanded.grows.agree id (lt_of_lt_of_le idLt midway.size_le), ← conj]
    exact midway.kinds id idLt

end Visit

section Pass

variable {start : Graph} (sound : start.Sound) {rank : Nat → ℚ} (ranked : start.Ranked rank)
include sound ranked

/-- Visiting a listed node keeps a pass midway, and never faults. -/
theorem visit_midway {g : Graph} (midway : Midway start rank (start.parents start.walk) g)
    {id : Nat} (listed : id ∈ start.walk) (changed : Bool) :
    ∃ g' changed', visit (start.parents start.walk) (g, changed) id = .ok (g', changed') ∧
      Midway start rank (start.parents start.walk) g' := by
  by_cases conj : (g.vertex id).kind = .and
  swap
  · exact ⟨g, changed, by simp [visit, conj], midway⟩
  have idLt := lt_size_of_mem_walk sound.closed sound.root_lt listed
  have startConj : (start.vertex id).kind = .and := (midway.kinds id idLt).symm.trans conj
  have noSplice := midway.spliceAt_listed sound ranked listed startConj
  cases found : g.firstOr? id with
  | none => exact ⟨g, changed || false, by simp [visit, conj, noSplice, found], midway⟩
  | some position =>
    have foundStart : start.firstOr? id = some position :=
      midway.firstOr?_listed sound listed startConj ▸ found
    cases entry : (start.parents start.walk).getD id none with
    | none =>
      refine ⟨_, true, ?_, midway.expandRoot sound ranked listed startConj foundStart entry⟩
      simp [visit, conj, noSplice, found, entry, replace]
    | some recordedAt =>
      obtain ⟨owner, slot⟩ := recordedAt
      obtain ⟨slotLt, written⟩ :=
        midway.expandIntoSlot sound ranked listed startConj foundStart entry
      refine ⟨_, true, ?_, written⟩
      simp [visit, conj, noSplice, found, entry, replace_some slotLt]

/-- The visits of a pass keep it midway, and none faults. -/
theorem foldlM_visit_midway : ∀ (items : List Nat), (∀ id ∈ items, id ∈ start.walk) →
    ∀ (g : Graph) (changed : Bool), Midway start rank (start.parents start.walk) g →
      ∃ g' changed', items.foldlM (visit (start.parents start.walk)) (g, changed) =
        .ok (g', changed') ∧ Midway start rank (start.parents start.walk) g'
  | [], _, g, changed, midway => ⟨g, changed, rfl, midway⟩
  | id :: rest, listed, g, changed, midway => by
    obtain ⟨next, changedNext, visited, midwayNext⟩ :=
      visit_midway sound ranked midway (listed id List.mem_cons_self) changed
    obtain ⟨final, changedFinal, rested, midwayFinal⟩ :=
      foldlM_visit_midway rest (fun other member => listed other (List.mem_cons_of_mem _ member))
        next changedNext midwayNext
    refine ⟨final, changedFinal, ?_, midwayFinal⟩
    rw [List.foldlM_cons, visited]
    exact rested

end Pass

/-- A pass from a sound graph does not fault, leaves a sound graph and keeps the meaning of its
tree. -/
theorem pass_spec (sound : g.Sound) :
    ∃ g' changed, g.pass = .ok (g', changed) ∧ g'.Sound ∧
      ∀ present, (g'.subtree g'.root).holds present = (g.subtree g.root).holds present := by
  obtain ⟨rank, ranked⟩ := sound.ranked
  obtain ⟨g', changed, passed, midway⟩ := foldlM_visit_midway sound ranked g.walk
    (fun _ listed => listed) g false (Midway.initial sound ranked g.walk)
  obtain ⟨rank', ranked', -⟩ := midway.ranked
  exact ⟨g', changed, passed, ⟨midway.closed, ⟨rank', ranked'⟩, midway.root_lt,
    midway.rootUnnested⟩, midway.rootHolds⟩

/-- Passes from a sound graph do not fault, leave a sound graph and keep the meaning of its
tree, however many are allowed. -/
theorem settle_spec : ∀ (limit : Nat) {g : Graph}, g.Sound →
    ∃ g', g.settle limit = .ok g' ∧ g'.Sound ∧
      ∀ present, (g'.subtree g'.root).holds present = (g.subtree g.root).holds present
  | 0, g, sound => ⟨g, rfl, sound, fun _ => rfl⟩
  | limit + 1, g, sound => by
    obtain ⟨next, changed, passed, soundNext, holdsNext⟩ := pass_spec sound
    cases changed with
    | true =>
      obtain ⟨final, settled, soundFinal, holdsFinal⟩ := settle_spec limit soundNext
      refine ⟨final, ?_, soundFinal, fun present => (holdsFinal present).trans (holdsNext present)⟩
      rw [settle, passed]
      exact settled
    | false => exact ⟨next, by rw [settle, passed], soundNext, holdsNext⟩

/-! ### The graph of a tree -/

-- Adding children before their parent numbers every graph built from trees so that its numbers
-- rank it.
mutual

/-- Adding a tree to a graph ranked by its numbers keeps it so, and adds a node below which the
tree stands. -/
theorem addTree_spec : ∀ (tree : Node) {g : Graph}, g.Closed → g.Ranked Nat.cast →
    Grows g (g.addTree tree).1 Nat.cast Nat.cast ∧
      (g.addTree tree).2 < (g.addTree tree).1.vertices.size ∧
      (g.addTree tree).1.subtree (g.addTree tree).2 = tree
  | ⟨kind, value, children⟩, g, closed, ranked => by
    obtain ⟨grows, inside, built⟩ := addTrees_spec children closed ranked
    set added := g.addTrees children
    have above : ∀ child ∈ added.2, (child : ℚ) < added.1.vertices.size :=
      fun child member => Nat.cast_lt.mpr (inside child member)
    have growsAdd : Grows added.1 (added.1.add ⟨kind, value, added.2⟩).1 Nat.cast
        (Function.update Nat.cast added.1.vertices.size (added.1.vertices.size : ℚ)) :=
      Grows.add grows.closed grows.ranked inside above
    rw [Function.update_eq_self] at growsAdd
    have unfolded : g.addTree ⟨kind, value, children⟩ = added.1.add ⟨kind, value, added.2⟩ := by
      simp only [addTree, added]
    rw [unfolded]
    refine ⟨grows.trans growsAdd, by simp, ?_⟩
    rw [add_snd, subtree_eq growsAdd.closed growsAdd.ranked, vertex_add, if_pos rfl,
      List.map_congr_left fun child member => growsAdd.subtree grows.closed grows.ranked
        (inside child member), built]

/-- Adding trees to a graph ranked by its numbers keeps it so, and adds one node for each, below
which it stands. -/
theorem addTrees_spec : ∀ (trees : List Node) {g : Graph}, g.Closed → g.Ranked Nat.cast →
    Grows g (g.addTrees trees).1 Nat.cast Nat.cast ∧
      (∀ id ∈ (g.addTrees trees).2, id < (g.addTrees trees).1.vertices.size) ∧
      (g.addTrees trees).2.map (g.addTrees trees).1.subtree = trees
  | [], g, closed, ranked => ⟨Grows.refl closed ranked, by simp [addTrees], by simp [addTrees]⟩
  | tree :: rest, g, closed, ranked => by
    obtain ⟨grows, inside, built⟩ := addTree_spec tree closed ranked
    obtain ⟨growsRest, insideRest, builtRest⟩ := addTrees_spec rest grows.closed grows.ranked
    have unfolded : g.addTrees (tree :: rest) = (((g.addTree tree).1.addTrees rest).1,
        (g.addTree tree).2 :: ((g.addTree tree).1.addTrees rest).2) := by
      simp only [addTrees]
    rw [unfolded]
    refine ⟨grows.trans growsRest, fun id member => ?_, ?_⟩
    · rcases List.mem_cons.mp member with rfl | later
      · exact lt_of_lt_of_le inside growsRest.size_le
      · exact insideRest id later
    · rw [List.map_cons, growsRest.subtree grows.closed grows.ranked inside, built, builtRest]

end

/-- The graph of an unnested tree is sound, and the tree stands below its root. -/
theorem ofNode_spec {tree : Node} (unnested : tree.Unnested .free) :
    (ofNode tree).Sound ∧ (ofNode tree).subtree (ofNode tree).root = tree := by
  have emptyClosed : (⟨#[], 0⟩ : Graph).Closed := fun _ _ member => by
    simp [vertex_eq] at member
  have emptyRanked : (⟨#[], 0⟩ : Graph).Ranked Nat.cast := fun _ _ member => by
    simp [vertex_eq] at member
  obtain ⟨grows, rootLt, built⟩ := addTree_spec tree emptyClosed emptyRanked
  have unfolded : ofNode tree =
      { (addTree ⟨#[], 0⟩ tree).1 with root := (addTree ⟨#[], 0⟩ tree).2 } := rfl
  have builtRoot : (ofNode tree).subtree (ofNode tree).root = tree := by
    rw [unfolded, subtree_setRoot]
    exact built
  have rootUnnested : ((ofNode tree).subtree (ofNode tree).root).Unnested .free := by
    rw [builtRoot]
    exact unnested
  exact ⟨⟨grows.closed, ⟨_, grows.ranked⟩, rootLt, rootUnnested⟩, builtRoot⟩

end Graph

/-- Normalizing in passes never faults on a query in which no conjunction stands in a
conjunction, directly or through disjunctions, and keeps its meaning, whatever the limit on the
passes. -/
theorem normalizeInPasses_holds {tree : Node} (unnested : tree.Unnested .free) (limit : Nat) :
    ∃ settled, normalizeInPasses tree limit = .ok settled ∧
      ∀ present, settled.holds present = tree.holds present := by
  obtain ⟨sound, built⟩ := Graph.ofNode_spec unnested
  obtain ⟨final, settled, -, keeps⟩ := Graph.settle_spec limit sound
  refine ⟨final.unfold, by rw [normalizeInPasses, settled]; rfl, fun present => ?_⟩
  rw [Graph.unfold_eq_subtree, keeps present, built]

/-- The tree of `(a OR b) AND NOT (c AND (d OR e))`: its inner conjunction stands under a
negation, not in the outer one. -/
def guardedQuery : Node :=
  .compound .and [.compound .or [.term "a", .term "b"],
    .compound .not [.compound .and [.term "c", .compound .or [.term "d", .term "e"]]]]

theorem normalizeInPasses_holds_guarded :
    guardedQuery.Unnested .free ∧ ∃ settled, normalizeInPasses guardedQuery 10 = .ok settled ∧
      ∀ present, settled.holds present = guardedQuery.holds present := by
  have unnested : guardedQuery.Unnested .free := by
    simp [guardedQuery, Node.compound, Node.term, Place.below]
  exact ⟨unnested, normalizeInPasses_holds unnested 10⟩

/-- `g1 AND g2 AND (((a OR b) AND h) AND e)` as a tree. -/
def droppedTermQuery : Node :=
  ⟨.and, none, [⟨.and, none, [.term "g1", .term "g2"]⟩,
    ⟨.and, none, [⟨.and, none, [⟨.or, none, [.term "a", .term "b"]⟩, .term "h"]⟩, .term "e"]⟩]⟩

set_option maxRecDepth 100000 in
/-- The first pass splices the outer conjunction to `g1, g2, (a OR b) AND h, e`, then expands
`((a OR b) AND h) AND e` and writes the result into position 1, where `g2` now stands. Without
`g2` true, the query fails and its pass-based normal form holds. -/
theorem normalizeInPasses_drops_term :
    ∃ settled, normalizeInPasses droppedTermQuery 1000 = .ok settled ∧
      settled.holds (· != some "g2") = true ∧ droppedTermQuery.holds (· != some "g2") = false := by
  refine ⟨.compound .or [
      .compound .or [
        .compound .and [.term "g1", .term "a", .term "h", .term "e",
          .term "a", .term "h", .term "e"],
        .compound .and [.term "g1", .term "a", .term "h", .term "e",
          .term "b", .term "h", .term "e"]],
      .compound .or [
        .compound .and [.term "g1", .term "b", .term "h", .term "e",
          .term "a", .term "h", .term "e"],
        .compound .and [.term "g1", .term "b", .term "h", .term "e",
          .term "b", .term "h", .term "e"]]],
    by rfl, ?_, ?_⟩
  · simp [Node.compound, Node.term]
  · simp [droppedTermQuery, Node.term]

end Listening.Query
