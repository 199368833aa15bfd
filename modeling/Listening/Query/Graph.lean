import Listening.Query.Expand

/-!
# The pass-based normalizer

This normalizer works on a graph of nodes: children are named by the identity of a node, so one
node may stand under several parents, and a change to a node shows wherever it stands.

A pass first walks the graph breadth-first from the root. The walk lists a node once for every
path that reaches it, and records for each node the last parent (and position in that parent)
through which it was reached. Then it visits the listed nodes in order. At a conjunction it
splices the conjunction children, then expands at the first disjunction child, if any; the new
disjunction takes the node's recorded place: the root, or the recorded position in the
parent's current list of children. When that list has become too short, the pass stops with a
fault.

Passes repeat while a pass changed something, at most the given number of times. The answer is
the tree that the graph unfolds to from its root, every shared node written out in full.
-/

namespace Listening.Query

/-- A node of a graph: kind, value and the identities of the children. -/
structure Vertex where
  kind : Kind
  value : Option String
  children : List Nat
deriving Inhabited

/-- A graph of query nodes, with its root. -/
structure Graph where
  vertices : Array Vertex
  root : Nat

namespace Graph

/-- The node with an identity (a bare term when there is none; a graph names only its own). -/
def vertex (graph : Graph) (id : Nat) : Vertex :=
  graph.vertices.getD id ⟨.term, none, []⟩

/-- Adds a node; its identity is the number of nodes before it. -/
def add (graph : Graph) (vertex : Vertex) : Graph × Nat :=
  (⟨graph.vertices.push vertex, graph.root⟩, graph.vertices.size)

/-- Replaces the children of a node. -/
def setChildren (graph : Graph) (id : Nat) (children : List Nat) : Graph :=
  ⟨graph.vertices.modify id fun vertex => { vertex with children }, graph.root⟩

mutual
/-- Adds the nodes of a tree, children first; returns the identity of its top. -/
def addTree (graph : Graph) : Node → Graph × Nat
  | ⟨kind, value, children⟩ =>
    let (graph, ids) := addTrees graph children
    graph.add ⟨kind, value, ids⟩

/-- Adds the nodes of several trees, in order. -/
def addTrees (graph : Graph) : List Node → Graph × List Nat
  | [] => (graph, [])
  | tree :: rest =>
    let (graph, id) := addTree graph tree
    let (graph, ids) := addTrees graph rest
    (graph, id :: ids)
end

/-- The graph of a tree: one node per node of the tree. -/
def ofNode (tree : Node) : Graph :=
  let (graph, root) := addTree ⟨#[], 0⟩ tree
  { graph with root }

/-- The tree below a node, written out to the given depth. A graph built by this normalizer has
no cycle, so its number of nodes is depth enough. -/
def unfoldFrom (graph : Graph) : Nat → Nat → Node
  | 0, _ => ⟨.term, none, []⟩
  | depth + 1, id =>
    let vertex := graph.vertex id
    ⟨vertex.kind, vertex.value, vertex.children.map (graph.unfoldFrom depth)⟩

/-- The tree that the graph unfolds to from its root. -/
def unfold (graph : Graph) : Node :=
  graph.unfoldFrom (graph.vertices.size + 1) graph.root

/-- The breadth-first walk from a level of nodes, level after level, each node listed once per
path that reaches it. -/
def walkFrom (graph : Graph) : Nat → List Nat → List Nat
  | 0, _ => []
  | depth + 1, level =>
    if level.isEmpty then []
    else level ++ graph.walkFrom depth (level.flatMap fun id => (graph.vertex id).children)

/-- The breadth-first walk from the root. -/
def walk (graph : Graph) : List Nat :=
  graph.walkFrom (graph.vertices.size + 1) [graph.root]

/-- For each node, the last parent and position through which the walk reached it. -/
def parents (graph : Graph) (order : List Nat) : Array (Option (Nat × Nat)) :=
  order.foldl (fun table id =>
    ((graph.vertex id).children.zipIdx).foldl (fun table (child, slot) =>
      table.setIfInBounds child (some (id, slot))) table)
    (Array.replicate graph.vertices.size none)

/-- Splices the conjunction children of a conjunction node; reports whether there was one. -/
def spliceAt (graph : Graph) (id : Nat) : Graph × Bool :=
  let vertex := graph.vertex id
  let isConj := fun child => (graph.vertex child).kind = .and
  if vertex.kind = .and && vertex.children.any isConj then
    (graph.setChildren id (vertex.children.flatMap fun child =>
      if isConj child then (graph.vertex child).children else [child]), true)
  else (graph, false)

/-- The position of the first disjunction child of a node. -/
def firstOr? (graph : Graph) (id : Nat) : Option Nat :=
  (graph.vertex id).children.findIdx? fun child => (graph.vertex child).kind = .or

/-- Expands a node at its child in a position: adds one conjunction per child of that child
and the disjunction over them; returns the disjunction's identity. -/
def expandAt (graph : Graph) (id position : Nat) : Graph × Nat :=
  let children := (graph.vertex id).children
  let chosen := children.getD position 0
  let before := children.take position
  let after := children.drop (position + 1)
  let (graph, conjs) := (graph.vertex chosen).children.foldl (fun (graph, conjs) choice =>
    let (graph, conj) := graph.add ⟨.and, none, before ++ choice :: after⟩
    (graph, conjs ++ [conj])) (graph, [])
  graph.add ⟨.or, none, conjs⟩

/-- Puts a node in the place of another: the root when it has no recorded parent, else the
recorded position of the parent's current children. -/
def replace (graph : Graph) (parent : Option (Nat × Nat)) (id : Nat) :
    Except StepFault Graph :=
  match parent with
  | none => .ok { graph with root := id }
  | some (owner, slot) =>
    let children := (graph.vertex owner).children
    if slot < children.length then .ok (graph.setChildren owner (children.set slot id))
    else .error .noSlotAt

/-- Visits one listed node of a pass. -/
def visit (table : Array (Option (Nat × Nat))) (state : Graph × Bool) (id : Nat) :
    Except StepFault (Graph × Bool) :=
  let (graph, changed) := state
  if (graph.vertex id).kind = .and then
    let (graph, spliced) := graph.spliceAt id
    match graph.firstOr? id with
    | none => .ok (graph, changed || spliced)
    | some position =>
      let (graph, fresh) := graph.expandAt id position
      match graph.replace (table.getD id none) fresh with
      | .ok graph => .ok (graph, true)
      | .error fault => .error fault
  else .ok state

/-- One pass: the walk, then a visit of every listed node. Reports whether anything changed. -/
def pass (graph : Graph) : Except StepFault (Graph × Bool) :=
  let order := graph.walk
  let table := graph.parents order
  order.foldlM (visit table) (graph, false)

/-- Runs passes while they change something, at most `limit` of them. -/
def settle (graph : Graph) : Nat → Except StepFault Graph
  | 0 => .ok graph
  | limit + 1 =>
    match graph.pass with
    | .ok (next, true) => next.settle limit
    | .ok (next, false) => .ok next
    | .error fault => .error fault

end Graph

/-- The pass-based normal form of a tree, with at most `limit` passes. -/
def normalizeInPasses (tree : Node) (limit : Nat) : Except StepFault Node :=
  (Graph.ofNode tree |>.settle limit).map Graph.unfold

end Listening.Query
