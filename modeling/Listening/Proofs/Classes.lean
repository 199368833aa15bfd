import Mathlib.Data.String.Basic
import Listening.Query.Classify

/-!
# The classes of a classification, as sets

A classification collects its terms in lists, repetitions allowed; what a classification says is
which values the lists hold. This module gives the walk one equation for each kind of node,
collects the parts of a union, and reads the pairs of a conjunction as a set: a pair stands for
two distinct values of the conjunction's terms, ordered, and every such two values give a pair
(`mem_pairsOf`). For texts the order of a pair is the order of strings (`orderedPair_some`).
-/

namespace Listening.Query

namespace Classification

/-- A union of classifications collects each class from all the parts, in order. -/
theorem unionAll_eq (parts : List Classification) :
    unionAll parts = ⟨parts.flatMap (·.standalone), parts.flatMap (·.excluded),
      parts.flatMap (·.pairs)⟩ := by
  induction parts with
  | nil => rfl
  | cons part rest restEq =>
    change union part (unionAll rest) = _
    rw [restEq]
    rfl

end Classification

namespace Node

variable (underNot underAnd : Bool) (value : Option String) (children : List Node)

@[simp] theorem classifyUnder_term :
    classifyUnder underNot underAnd ⟨.term, value, children⟩ =
      if underNot then { excluded := [value] }
      else if underAnd then {}
      else { standalone := [value] } := by
  simp [classifyUnder]

@[simp] theorem classifyUnder_or :
    classifyUnder underNot underAnd ⟨.or, value, children⟩ =
      .unionAll (children.map (classifyUnder underNot underAnd)) := by
  simp [classifyUnder]

@[simp] theorem classifyUnder_and :
    classifyUnder underNot underAnd ⟨.and, value, children⟩ =
      .union { pairs := pairsOf (children.flatMap terms) }
        (.unionAll (children.map (classifyUnder underNot true))) := by
  simp [classifyUnder, terms]

@[simp] theorem classifyUnder_not :
    classifyUnder underNot underAnd ⟨.not, value, children⟩ =
      .unionAll (children.map (classifyUnder true underAnd)) := by
  simp [classifyUnder]

@[simp] theorem classifyUnder_other (name : String) :
    classifyUnder underNot underAnd ⟨.other name, value, children⟩ = {} := by
  simp [classifyUnder]

@[simp] theorem terms_term : terms ⟨.term, value, children⟩ = [value] := by
  simp [terms]

end Node

/-- The distinct values of a list are its values. -/
@[simp] theorem mem_distinct {values : List (Option String)} {v : Option String} :
    v ∈ distinct values ↔ v ∈ values := by
  induction values with
  | nil => simp [distinct]
  | cons first rest restSame =>
    simp only [distinct, List.mem_cons, List.mem_filter, restSame, bne_iff_ne, ne_eq]
    by_cases same : v = first <;> simp [same]

theorem nodup_distinct (values : List (Option String)) : (distinct values).Nodup := by
  induction values with
  | nil => exact List.nodup_nil
  | cons first rest restNodup =>
    refine List.nodup_cons.mpr ⟨?_, restNodup.filter _⟩
    simp

/-- Two distinct values give one pair, whichever comes first. -/
theorem orderedPair_comm {a b : Option String} (distinctValues : a ≠ b) :
    orderedPair a b = orderedPair b a := by
  cases a with
  | none =>
    cases b with
    | none => exact absurd rfl distinctValues
    | some y => simp [orderedPair, valueLt]
  | some x =>
    cases b with
    | none => simp [orderedPair, valueLt]
    | some y =>
      have textsDiffer : x ≠ y := fun same => distinctValues (congrArg some same)
      rcases lt_or_gt_of_ne textsDiffer with below | above
      · simp [orderedPair, valueLt, below, not_lt_of_gt below]
      · simp [orderedPair, valueLt, above, not_lt_of_gt above]

/-- The pair of two texts holds the lesser first. -/
theorem orderedPair_some (a b : String) :
    orderedPair (some a) (some b) = (some (min a b), some (max a b)) := by
  by_cases below : b < a
  · simp [orderedPair, valueLt, below, min_eq_right below.le, max_eq_left below.le]
  · have atMost : a ≤ b := not_lt.mp below
    simp [orderedPair, valueLt, below, min_eq_left atMost, max_eq_right atMost]

/-- The pairs taken from a list without repetitions, each value with the values after it, are
the ordered pairs of two distinct values of the list. The list is the suffix of `full` from
`start` on, which is where its indices point. -/
theorem mem_pairsAfter {full unique : List (Option String)} {start : Nat}
    (suffix : full.drop start = unique) (nodup : unique.Nodup)
    {p : Option String × Option String} :
    p ∈ (unique.zipIdx start).flatMap
        (fun (a, i) => (full.drop (i + 1)).map fun b => orderedPair a b) ↔
      ∃ a ∈ unique, ∃ b ∈ unique, a ≠ b ∧ p = orderedPair a b := by
  induction unique generalizing start with
  | nil => simp
  | cons first others othersPairs =>
    have next : full.drop (start + 1) = others := by
      rw [← List.drop_drop, suffix]
      rfl
    obtain ⟨firstFresh, othersNodup⟩ := List.nodup_cons.mp nodup
    rw [List.zipIdx_cons, List.flatMap_cons, List.mem_append, othersPairs next othersNodup]
    simp only [next, List.mem_map]
    constructor
    · rintro (⟨b, member, rfl⟩ | ⟨a, aMember, b, bMember, differ, rfl⟩)
      · exact ⟨first, List.mem_cons_self, b, List.mem_cons_of_mem _ member,
          fun same => firstFresh (same ▸ member), rfl⟩
      · exact ⟨a, List.mem_cons_of_mem _ aMember, b, List.mem_cons_of_mem _ bMember, differ, rfl⟩
    · rintro ⟨a, aMember, b, bMember, differ, rfl⟩
      rcases List.mem_cons.mp aMember with rfl | aLater <;>
        rcases List.mem_cons.mp bMember with rfl | bLater
      · exact absurd rfl differ
      · exact .inl ⟨b, bLater, rfl⟩
      · exact .inl ⟨a, aLater, orderedPair_comm differ.symm⟩
      · exact .inr ⟨a, aLater, b, bLater, differ, rfl⟩

/-- The pairs of a list of values are the ordered pairs of two distinct values of it. -/
theorem mem_pairsOf {values : List (Option String)} {p : Option String × Option String} :
    p ∈ pairsOf values ↔ ∃ a ∈ values, ∃ b ∈ values, a ≠ b ∧ p = orderedPair a b := by
  rw [pairsOf, mem_pairsAfter (List.drop_zero) (nodup_distinct values)]
  simp only [mem_distinct]

end Listening.Query
