/-!
# Query trees

A query reads into a tree of nodes. A node has a kind, an optional value and a list of
children. Reading produces four kinds: a term (whose value is the searched text), a
conjunction, a disjunction and a negation. Trees handed in from outside may carry kinds of
other names, and any node may have children, so the type allows both.

The text form of a tree (`Node.describe`) writes a term as `TERM(value)`, a conjunction,
disjunction or negation as its name with the children's forms between parentheses, and a node
of another kind as its name, a question mark and its value.
-/

namespace Listening.Query

/-- The kind of a query node. -/
inductive Kind where
  /-- A searched text. -/
  | term
  /-- All children must hold. -/
  | and
  /-- Some child must hold. -/
  | or
  /-- The children must not all hold. -/
  | not
  /-- A kind this library does not interpret, kept under its name. -/
  | other (name : String)
deriving DecidableEq, Repr, Inhabited

/-- The name under which a kind is written. -/
def Kind.name : Kind → String
  | .term => "TERM"
  | .and => "AND"
  | .or => "OR"
  | .not => "NOT"
  | .other name => name

/-- The kind written under a name: the four known names give their kinds, any other name a
kind of its own. -/
def Kind.ofName (name : String) : Kind :=
  if name = "TERM" then .term
  else if name = "AND" then .and
  else if name = "OR" then .or
  else if name = "NOT" then .not
  else .other name

/-- The sum of a list of counts. -/
def total (counts : List Nat) : Nat :=
  counts.foldr (· + ·) 0

@[simp] theorem total_nil : total [] = 0 := rfl

@[simp] theorem total_cons (count : Nat) (counts : List Nat) :
    total (count :: counts) = count + total counts := rfl

@[simp] theorem total_append (xs ys : List Nat) : total (xs ++ ys) = total xs + total ys := by
  induction xs with
  | nil => simp
  | cons x xs ih => simp [ih, Nat.add_assoc]

/-- A node of a query tree. -/
structure Node where
  kind : Kind
  value : Option String := none
  children : List Node := []
deriving Repr, Inhabited

namespace Node

/-- A term node holding a text. -/
def term (text : String) : Node :=
  ⟨.term, some text, []⟩

/-- A node of a given kind over children, without a value. -/
def compound (kind : Kind) (children : List Node) : Node :=
  ⟨kind, none, children⟩

/-- The value as it appears in the text form: the text itself, or `None` when there is none. -/
def valueText (node : Node) : String :=
  node.value.getD "None"

/-- The text form of a node. -/
def describe : Node → String
  | ⟨.term, value, _⟩ => "TERM(" ++ value.getD "None" ++ ")"
  | ⟨.other name, value, _⟩ => name ++ "? " ++ value.getD "None"
  | ⟨kind, _, children⟩ =>
    kind.name ++ "(" ++ ", ".intercalate (children.attach.map fun ⟨child, _⟩ => child.describe) ++ ")"

/-- The values of the term nodes of a tree, in pre-order, repetitions kept. The children of a
term are not visited. -/
def terms : Node → List (Option String)
  | ⟨.term, value, _⟩ => [value]
  | ⟨_, _, children⟩ => children.attach.flatMap fun ⟨child, _⟩ => child.terms

/-- The number of nodes of a tree. -/
def size : Node → Nat
  | ⟨_, _, children⟩ => 1 + total (children.attach.map fun ⟨child, _⟩ => child.size)

end Node

end Listening.Query
