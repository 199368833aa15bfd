import Listening.Query.Node

/-!
# Classifying the terms of a tree

Walking down from the root, a term is

* excluded when a negation stands above it,
* otherwise left for its conjunction when a conjunction stands above it,
* otherwise standalone (it is reached through disjunctions only).

Every conjunction, wherever it stands below conjunctions, disjunctions and negations, requires
each pair of distinct values among its terms to occur together; a pair is written in order.
The walk does not enter terms (their children are ignored) nor nodes of other kinds; a
conjunction's terms are collected through nodes of every kind (`Node.terms`).

Values are optional texts; a missing value orders before every text. A pair of a missing value
and a text cannot be ordered by the classification, so `Node.mixedPair` reports such a
conjunction.
-/

namespace Listening.Query

/-- The terms of a tree sorted into the three classes, repetitions allowed. -/
structure Classification where
  standalone : List (Option String) := []
  excluded : List (Option String) := []
  pairs : List (Option String × Option String) := []

namespace Classification

/-- The union of two classifications. -/
def union (left right : Classification) : Classification :=
  ⟨left.standalone ++ right.standalone, left.excluded ++ right.excluded, left.pairs ++ right.pairs⟩

/-- The union of a list of classifications. -/
def unionAll (parts : List Classification) : Classification :=
  parts.foldr union {}

end Classification

/-- The order of values: a missing value first, then texts by code point. -/
def valueLt : Option String → Option String → Bool
  | none, some _ => true
  | some a, some b => a < b
  | _, _ => false

/-- A pair of distinct values, in order. -/
def orderedPair (a b : Option String) : Option String × Option String :=
  if valueLt b a then (b, a) else (a, b)

/-- The values of a list without repetitions, first occurrences kept. -/
def distinct : List (Option String) → List (Option String)
  | [] => []
  | v :: rest => v :: (distinct rest).filter (· != v)

/-- Every pair of two distinct values of a list, each in order. -/
def pairsOf (values : List (Option String)) : List (Option String × Option String) :=
  let unique := distinct values
  unique.zipIdx.flatMap fun (a, i) => (unique.drop (i + 1)).map fun b => orderedPair a b

/-- The distinct values of a list, missing value first, then texts by code point. -/
def sortedValues (values : List (Option String)) : List (Option String) :=
  (distinct values).mergeSort fun a b => !valueLt b a

/-- Whether one pair orders before another: by first members, then by second members. -/
def pairLe (p q : Option String × Option String) : Bool :=
  valueLt p.1 q.1 || (p.1 == q.1 && !valueLt q.2 p.2)

/-- The classification as sets: each class without repetitions, in order. -/
def Classification.sorted (c : Classification) : Classification :=
  let pairs := c.pairs.foldl (fun seen p => if seen.contains p then seen else seen ++ [p]) []
  ⟨sortedValues c.standalone, sortedValues c.excluded, pairs.mergeSort pairLe⟩

namespace Node

/-- Classifies the terms of a tree, given whether a negation and whether a conjunction stand
above it. -/
def classifyUnder (underNot underAnd : Bool) : Node → Classification
  | ⟨.term, value, _⟩ =>
    if underNot then { excluded := [value] }
    else if underAnd then {}
    else { standalone := [value] }
  | ⟨.not, _, children⟩ =>
    .unionAll (children.attach.map fun ⟨child, _⟩ => child.classifyUnder true underAnd)
  | node@⟨.and, _, children⟩ =>
    .union { pairs := pairsOf node.terms }
      (.unionAll (children.attach.map fun ⟨child, _⟩ => child.classifyUnder underNot true))
  | ⟨.or, _, children⟩ =>
    .unionAll (children.attach.map fun ⟨child, _⟩ => child.classifyUnder underNot underAnd)
  | ⟨.other _, _, _⟩ => {}

/-- Classifies the terms of a tree from its root. -/
def classify (node : Node) : Classification :=
  node.classifyUnder false false

/-- Whether a conjunction that the classification visits has among its terms both a missing
value and a text. -/
def mixedPair : Node → Bool
  | ⟨.term, _, _⟩ | ⟨.other _, _, _⟩ => false
  | node@⟨.and, _, children⟩ =>
    (node.terms.contains none && node.terms.any Option.isSome) ||
      children.attach.any fun ⟨child, _⟩ => child.mixedPair
  | ⟨_, _, children⟩ => children.attach.any fun ⟨child, _⟩ => child.mixedPair

end Node

end Listening.Query
