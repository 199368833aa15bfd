import Listening.Query.Node

/-!
# Distributing conjunction over disjunction

The normal form of a tree has no conjunction directly under a conjunction and no disjunction
directly under a conjunction. It is computed bottom-up: the children of every node first; then
a conjunction splices its conjunction children (one level: their children take their place)
and, if a disjunction stands among the spliced children, distributes over the first one:

`AND(x, OR(a, b), z)` becomes `OR(AND(x, a, z), AND(x, b, z))`,

each new conjunction normalised again. A conjunction that distributes no further keeps its
value; the nodes built on the way have none. A disjunction is never spliced.

Distribution terminates because the disjunctions that a conjunction can reach through
conjunctions weigh less after each step: the disjunction that is taken apart is replaced by one
of its children, which is smaller.
-/

namespace Listening.Query

namespace Node

/-- The size of the disjunctions that a node reaches through conjunctions: a disjunction
counts its whole size, a conjunction the sum over its children, any other node nothing. -/
def orWeight : Node → Nat
  | ⟨.or, value, children⟩ => size ⟨.or, value, children⟩
  | ⟨.and, _, children⟩ => total (children.attach.map fun ⟨child, _⟩ => child.orWeight)
  | _ => 0

end Node

/-- The total disjunction weight of a list of nodes. -/
def listWeight (nodes : List Node) : Nat :=
  total (nodes.map Node.orWeight)

/-- Replaces each conjunction of a list by its children. -/
def spliceConj (nodes : List Node) : List Node :=
  nodes.flatMap fun node => if node.kind = .and then node.children else [node]

/-- A list cut around its first disjunction: the nodes before it, the disjunction and the
nodes after it. -/
def splitAtFirstOr : List Node → Option (List Node × Node × List Node)
  | [] => none
  | node :: rest =>
    if node.kind = .or then some ([], node, rest)
    else (splitAtFirstOr rest).map fun (before, found, after) => (node :: before, found, after)

theorem listWeight_append (xs ys : List Node) :
    listWeight (xs ++ ys) = listWeight xs + listWeight ys := by
  simp [listWeight]

theorem orWeight_and (value : Option String) (children : List Node) :
    Node.orWeight ⟨.and, value, children⟩ = listWeight children := by
  simp only [Node.orWeight, listWeight]
  congr 1
  exact List.map_attach_eq_pmap .. |>.trans (by simp)

theorem listWeight_spliceConj (nodes : List Node) :
    listWeight (spliceConj nodes) = listWeight nodes := by
  induction nodes with
  | nil => rfl
  | cons node rest ih =>
    simp only [spliceConj, List.flatMap_cons] at ih ⊢
    rw [listWeight_append, ih]
    obtain ⟨kind, value, children⟩ := node
    by_cases h : kind = .and
    · subst h
      simp [orWeight_and, listWeight]
    · simp [h, listWeight]

theorem splitAtFirstOr_eq {nodes before after : List Node} {found : Node} :
    splitAtFirstOr nodes = some (before, found, after) →
      nodes = before ++ found :: after ∧ found.kind = .or := by
  induction nodes generalizing before with
  | nil => simp [splitAtFirstOr]
  | cons node rest ih =>
    simp only [splitAtFirstOr]
    split
    · intro h
      simp only [Option.some.injEq, Prod.mk.injEq] at h
      obtain ⟨rfl, rfl, rfl⟩ := h
      simp_all
    · intro h
      obtain ⟨⟨before', found', after'⟩, hrest, heq⟩ := Option.map_eq_some_iff.mp h
      simp only [Prod.mk.injEq] at heq
      obtain ⟨rfl, rfl, rfl⟩ := heq
      obtain ⟨hsplit, hkind⟩ := ih hrest
      exact ⟨by simp [hsplit], hkind⟩

@[simp] theorem Node.size_mk (kind : Kind) (value : Option String) (children : List Node) :
    Node.size ⟨kind, value, children⟩ = 1 + total (children.map Node.size) := by
  simp [Node.size]

theorem listWeight_le_of_forall {nodes : List Node}
    (h : ∀ node ∈ nodes, node.orWeight ≤ node.size) :
    listWeight nodes ≤ total (nodes.map Node.size) := by
  induction nodes with
  | nil => simp [listWeight]
  | cons node rest ih =>
    have head := h node (by simp)
    have tail := ih fun n hn => h n (by simp [hn])
    simp only [listWeight, List.map_cons, total_cons] at tail ⊢
    omega

theorem orWeight_le_size : ∀ node : Node, node.orWeight ≤ node.size
  | ⟨.or, value, children⟩ => by simp [Node.orWeight]
  | ⟨.and, value, children⟩ => by
    rw [orWeight_and, Node.size_mk]
    have := listWeight_le_of_forall fun c (_ : c ∈ children) => orWeight_le_size c
    omega
  | ⟨.term, _, _⟩ | ⟨.not, _, _⟩ | ⟨.other _, _, _⟩ => by simp [Node.orWeight]

theorem le_total_map_of_mem {f : Node → Nat} :
    ∀ {nodes : List Node} {node : Node}, node ∈ nodes → f node ≤ total (nodes.map f)
  | _ :: rest, node, h => by
    rcases List.mem_cons.mp h with rfl | h
    · simp
    · have := le_total_map_of_mem (f := f) h
      simp only [List.map_cons, total_cons]
      omega

theorem size_lt_of_mem {child : Node} {kind : Kind} {value : Option String}
    {children : List Node} (h : child ∈ children) :
    child.size < Node.size ⟨kind, value, children⟩ := by
  rw [Node.size_mk]
  have := le_total_map_of_mem (f := Node.size) h
  omega

theorem listWeight_cons (node : Node) (rest : List Node) :
    listWeight (node :: rest) = node.orWeight + listWeight rest := by
  simp [listWeight]

theorem orWeight_or (value : Option String) (children : List Node) :
    Node.orWeight ⟨.or, value, children⟩ = Node.size ⟨.or, value, children⟩ := by
  simp [Node.orWeight]

/-- Distributes a conjunction over its children: splices the conjunction children, then
distributes over the first disjunction among them, if any. Without a disjunction the
conjunction stays, with its value. -/
def distribute (value : Option String) (children : List Node) : Node :=
  match h : splitAtFirstOr (spliceConj children) with
  | none => ⟨.and, value, spliceConj children⟩
  | some (before, found, after) =>
    .compound .or (found.children.attach.map fun ⟨choice, member⟩ =>
      have : listWeight (before ++ choice :: after) < listWeight children := by
        obtain ⟨hsplit, hkind⟩ := splitAtFirstOr_eq h
        have whole := listWeight_spliceConj children
        rw [hsplit] at whole
        obtain ⟨kind, v, kids⟩ := found
        simp only at hkind
        subst hkind
        have hc := orWeight_le_size choice
        have hlt := @size_lt_of_mem choice .or v kids member
        rw [listWeight_append, listWeight_cons, orWeight_or] at whole
        rw [listWeight_append, listWeight_cons]
        omega
      distribute none (before ++ choice :: after))
termination_by listWeight children

/-- The normal form of a tree: children first, then each conjunction distributed. -/
def normalize : Node → Node
  | ⟨.and, value, children⟩ =>
    distribute value (children.attach.map fun ⟨child, _⟩ => normalize child)
  | ⟨kind, value, children⟩ =>
    ⟨kind, value, children.attach.map fun ⟨child, _⟩ => normalize child⟩

end Listening.Query
