import Mathlib.Data.String.Basic
import Mathlib.Data.List.Sort
import Listening.Proofs.Classes
import Listening.Query.Summary

/-!
# How a summary orders its terms

A summary lists the distinct values of each collection it is given, sorted by a stable merge sort
under one of two comparisons (`ListingOrder.le`): by code point, or by lower-case form. Both are
total preorders, so a sorted list is ordered; when the comparison ranks no two distinct members
alike (`ListingOrder.Apart`), two walks of the same members sort to one list
(`ListingOrder.sort_congr`). Otherwise two values ranked alike come out in the order they were
walked, so walking them the other way round sorts differently (`sortedBy_swap_ne`), and the two
sortings agree up to a first place where they hold two such values (`lowerCase_first_difference`).

The last section of a summary keeps the pairs without a standalone member (`keptBy`) and groups
them by first member, each with its partners (`partnersOf`). A summary therefore prints one text
for all walks of the same members when each list it sorts is apart (`summaryText_congr`), and by
code point every list is (`codePoint_apart`).
-/

namespace Listening.Query

open Listening.Text

/-! ### Comparisons -/

/-- The comparison with which an order sorts: whether one value may stand before another. -/
def ListingOrder.le : ListingOrder → Option String → Option String → Bool
  | .codePoint => fun a b => !valueLt b a
  | .lowerCase => fun a b => !(lower (shownValue b) < lower (shownValue a))

/-- Code-point order on values is asymmetric. -/
theorem valueLt_asymm {a b : Option String} (below : valueLt a b = true) :
    valueLt b a = false := by
  cases a with
  | none => cases b <;> simp [valueLt] at below ⊢
  | some x =>
    cases b with
    | none => simp [valueLt] at below
    | some y =>
      simp only [valueLt, decide_eq_true_eq, decide_eq_false_iff_not] at below ⊢
      exact not_lt_of_gt below

/-- Each order ranks any two values one way or the other. -/
theorem ListingOrder.le_or_le (order : ListingOrder) (a b : Option String) :
    (order.le a b || order.le b a) = true := by
  cases order with
  | codePoint =>
    cases h : valueLt b a
    · simp [ListingOrder.le, h]
    · simp [ListingOrder.le, valueLt_asymm h]
  | lowerCase =>
    simp only [ListingOrder.le, Bool.or_eq_true, Bool.not_eq_true', decide_eq_false_iff_not,
      not_lt]
    exact le_total _ _

/-- Each order is transitive. -/
theorem ListingOrder.le_of_le_of_le (order : ListingOrder) (a b c : Option String)
    (first : order.le a b = true) (second : order.le b c = true) : order.le a c = true := by
  cases order with
  | codePoint =>
    -- A missing value stands before everything, and texts go by code point.
    cases a with
    | none => cases c <;> rfl
    | some x =>
      cases b with
      | none => simp [ListingOrder.le, valueLt] at first
      | some y =>
        cases c with
        | none => simp [ListingOrder.le, valueLt] at second
        | some z =>
          simp only [ListingOrder.le, valueLt, Bool.not_eq_true', decide_eq_false_iff_not,
            not_lt] at first second ⊢
          exact le_trans first second
  | lowerCase =>
    simp only [ListingOrder.le, Bool.not_eq_true', decide_eq_false_iff_not, not_lt] at *
    exact le_trans first second

/-- Two texts stand in lower-case order as their lower-case forms do. -/
theorem lowerCase_le_iff (x y : String) :
    ListingOrder.lowerCase.le (some x) (some y) = true ↔ lower x ≤ lower y := by
  simp only [ListingOrder.le, Bool.not_eq_true', decide_eq_false_iff_not, not_lt]
  rfl

/-- The order ranks no two distinct members of a list alike. -/
def ListingOrder.Apart (order : ListingOrder) (values : List (Option String)) : Prop :=
  ∀ a ∈ values, ∀ b ∈ values, order.le a b = true → order.le b a = true → a = b

/-- Sorting by code point ranks no two distinct values alike. -/
theorem codePoint_apart (values : List (Option String)) : ListingOrder.codePoint.Apart values := by
  intro a _ b _ first second
  cases a with
  | none => cases b with
    | none => rfl
    | some y => simp [ListingOrder.le, valueLt] at second
  | some x => cases b with
    | none => simp [ListingOrder.le, valueLt] at first
    | some y =>
      simp only [ListingOrder.le, valueLt, Bool.not_eq_true', decide_eq_false_iff_not,
        not_lt] at first second
      exact congrArg some (le_antisymm first second)

/-! ### Sorting walks -/

/-- The distinct values of a list, sorted. -/
def sortedBy (order : ListingOrder) (values : List (Option String)) : List (Option String) :=
  (distinct values).mergeSort order.le

/-- Sorting fails on a missing value where the order cannot place it, and otherwise gives the
distinct values sorted. -/
theorem ListingOrder.sort_eq (order : ListingOrder) (values : List (Option String)) :
    order.sort values =
      match order with
      | .codePoint =>
        if (distinct values).contains none && (distinct values).any Option.isSome then
          .error .mixedValues
        else .ok (sortedBy order values)
      | .lowerCase =>
        if (distinct values).contains none then .error .noLowerCase
        else .ok (sortedBy order values) := by
  cases order <;> rfl

theorem mem_sortedBy {order : ListingOrder} {values : List (Option String)} {v : Option String} :
    v ∈ sortedBy order values ↔ v ∈ values := by
  rw [sortedBy, List.mem_mergeSort, mem_distinct]

theorem nodup_sortedBy (order : ListingOrder) (values : List (Option String)) :
    (sortedBy order values).Nodup :=
  (List.mergeSort_perm _ _).nodup_iff.mpr (nodup_distinct _)

theorem sortedBy_pairwise (order : ListingOrder) (values : List (Option String)) :
    (sortedBy order values).Pairwise fun a b => order.le a b = true :=
  List.pairwise_mergeSort order.le_of_le_of_le order.le_or_le _

/-- Lists with the same members sort to orderings of the same values. -/
theorem sortedBy_perm (order : ListingOrder) {values values' : List (Option String)}
    (same : ∀ v, v ∈ values ↔ v ∈ values') :
    (sortedBy order values).Perm (sortedBy order values') :=
  (List.perm_ext_iff_of_nodup (nodup_sortedBy order values) (nodup_sortedBy order values')).mpr
    fun v => by rw [mem_sortedBy, mem_sortedBy, same]

/-- Lists with the same members sort to one list when the order ranks no two distinct members
alike. -/
theorem sortedBy_congr (order : ListingOrder) {values values' : List (Option String)}
    (same : ∀ v, v ∈ values ↔ v ∈ values') (apart : order.Apart values) :
    sortedBy order values = sortedBy order values' := by
  refine List.Perm.eq_of_pairwise ?_ (sortedBy_pairwise order values)
    (sortedBy_pairwise order values') (sortedBy_perm order same)
  intro a b aMember bMember
  exact apart a (mem_sortedBy.mp aMember) b ((same b).mpr (mem_sortedBy.mp bMember))

/-- Sorting two lists with the same members gives one list, or fails alike, when the order ranks
no two distinct members alike. -/
theorem ListingOrder.sort_congr (order : ListingOrder) {values values' : List (Option String)}
    (same : ∀ v, v ∈ values ↔ v ∈ values') (apart : order.Apart values) :
    order.sort values = order.sort values' := by
  have contains : ∀ v, (distinct values).contains v = (distinct values').contains v := by
    intro v
    simp [same]
  have texts : (distinct values).any Option.isSome = (distinct values').any Option.isSome := by
    rw [Bool.eq_iff_iff, List.any_eq_true, List.any_eq_true]
    simp only [mem_distinct, same]
  rw [sort_eq, sort_eq, sortedBy_congr order same apart, contains, texts]

/-- Sorting texts by lower-case form does not fail. -/
theorem lowerCase_sort_of_texts {values : List (Option String)} (texts : none ∉ values) :
    ListingOrder.lowerCase.sort values = .ok (sortedBy .lowerCase values) := by
  have noMissing : (distinct values).contains none = false := by simpa using texts
  rw [ListingOrder.sort_eq]
  simp only [noMissing, Bool.false_eq_true, if_false]

/-- Two different sortings of the same values agree up to a first place, where they hold two
distinct values that the sorting ranks alike. -/
theorem exists_first_difference {α : Type} {le : α → α → Bool} :
    ∀ {first second : List α}, first.Perm second → first.Pairwise (le · ·) →
      second.Pairwise (le · ·) → first ≠ second →
      ∃ common u w rest rest', first = common ++ u :: rest ∧ second = common ++ w :: rest' ∧
        u ≠ w ∧ le u w = true ∧ le w u = true
  | [], second, same, _, _, differ => by
    rw [List.Perm.nil_eq same] at differ
    exact absurd rfl differ
  | a :: rest, [], same, _, _, _ => by
    have empty := List.Perm.nil_eq same.symm
    cases empty
  | a :: rest, b :: rest', same, sorted, sorted', differ => by
    by_cases heads : a = b
    · subst heads
      have tails : rest ≠ rest' := fun equal => differ (equal ▸ rfl)
      obtain ⟨common, u, w, more, more', rfl, rfl, apart, uw, wu⟩ :=
        exists_first_difference (same.cons_inv) sorted.of_cons sorted'.of_cons tails
      exact ⟨a :: common, u, w, more, more', rfl, rfl, apart, uw, wu⟩
    · have bLater : b ∈ rest := by
        rcases List.mem_cons.mp (same.mem_iff.mpr List.mem_cons_self) with same | later
        · exact absurd same.symm heads
        · exact later
      have aLater : a ∈ rest' := by
        rcases List.mem_cons.mp (same.mem_iff.mp List.mem_cons_self) with same | later
        · exact absurd same heads
        · exact later
      exact ⟨[], a, b, rest, rest', rfl, rfl, heads, List.rel_of_pairwise_cons sorted bLater,
        List.rel_of_pairwise_cons sorted' aLater⟩

/-- In a list without repetitions two values cannot stand in both orders. -/
theorem eq_of_pair_sublists {α : Type} {x y : α} :
    ∀ {values : List α}, values.Nodup → [x, y].Sublist values → [y, x].Sublist values → x = y
  | [], _, forward, _ => by simp at forward
  | first :: rest, nodup, forward, backward => by
    obtain ⟨fresh, restNodup⟩ := List.nodup_cons.mp nodup
    rcases List.sublist_cons_iff.mp forward with inRest | ⟨_, xFirst, yRest⟩ <;>
      rcases List.sublist_cons_iff.mp backward with inRest' | ⟨_, yFirst, xRest⟩
    · exact eq_of_pair_sublists restNodup inRest inRest'
    · obtain ⟨rfl, -⟩ := List.cons.inj yFirst
      exact absurd (inRest.subset (by simp)) fresh
    · obtain ⟨rfl, -⟩ := List.cons.inj xFirst
      exact absurd (inRest'.subset (by simp)) fresh
    · obtain ⟨rfl, -⟩ := List.cons.inj xFirst
      obtain ⟨rfl, -⟩ := List.cons.inj yFirst
      rfl

/-- Two distinct values that the order ranks alike come out in the order they are walked, so
walking them the other way round sorts differently. -/
theorem sortedBy_swap_ne (order : ListingOrder) {x y : Option String} (differ : x ≠ y)
    (xy : order.le x y = true) (yx : order.le y x = true) (rest : List (Option String)) :
    sortedBy order (x :: y :: rest) ≠ sortedBy order (y :: x :: rest) := by
  have walked : ∀ a b, a ≠ b → [a, b].Sublist (distinct (a :: b :: rest)) := by
    intro a b apart
    simp [distinct, Ne.symm apart]
  intro same
  have forward : [x, y].Sublist (sortedBy order (x :: y :: rest)) :=
    List.pair_sublist_mergeSort order.le_of_le_of_le order.le_or_le xy (walked x y differ)
  have backward : [y, x].Sublist (sortedBy order (y :: x :: rest)) :=
    List.pair_sublist_mergeSort order.le_of_le_of_le order.le_or_le yx (walked y x (Ne.symm differ))
  rw [← same] at backward
  exact differ (eq_of_pair_sublists (nodup_sortedBy order _) forward backward)

/-- A sorting of two distinct values and more holds more than one value. -/
theorem length_sortedBy_ne_one (order : ListingOrder) {x y : Option String} (differ : x ≠ y)
    (rest : List (Option String)) : (sortedBy order (x :: y :: rest)).length ≠ 1 := by
  intro one
  obtain ⟨z, single⟩ := List.length_eq_one_iff.mp one
  have xMember : x ∈ sortedBy order (x :: y :: rest) := mem_sortedBy.mpr (by simp)
  have yMember : y ∈ sortedBy order (x :: y :: rest) := mem_sortedBy.mpr (by simp)
  rw [single, List.mem_singleton] at xMember yMember
  exact differ (xMember.trans yMember.symm)

/-- Two sortings by lower-case form of the same texts that differ agree up to a first place, where
they hold two distinct texts with the same lower-case form. -/
theorem lowerCase_first_difference {values values' : List (Option String)} (texts : none ∉ values)
    (same : ∀ v, v ∈ values ↔ v ∈ values')
    (differ : sortedBy .lowerCase values ≠ sortedBy .lowerCase values') :
    ∃ common u w rest rest', sortedBy .lowerCase values = common ++ some u :: rest ∧
      sortedBy .lowerCase values' = common ++ some w :: rest' ∧ u ≠ w ∧ lower u = lower w := by
  have perm := sortedBy_perm .lowerCase same
  obtain ⟨common, u, w, rest, rest', first, second, apart, uw, wu⟩ :=
    exists_first_difference perm (sortedBy_pairwise _ _) (sortedBy_pairwise _ _) differ
  -- Both texts are members of the sorted values, none of which is missing.
  have text : ∀ v ∈ sortedBy .lowerCase values, ∃ x, v = some x := by
    intro v member
    cases v with
    | none => exact absurd (mem_sortedBy.mp member) texts
    | some x => exact ⟨x, rfl⟩
  obtain ⟨x, rfl⟩ := text u (by simp [first])
  obtain ⟨y, rfl⟩ := text w (by simp [perm.mem_iff, second])
  exact ⟨common, x, y, rest, rest', first, second, fun same => apart (congrArg some same),
    le_antisymm ((lowerCase_le_iff x y).mp uw) ((lowerCase_le_iff y x).mp wu)⟩

/-- Walking two distinct texts with the same lower-case form the other way round sorts them
differently: the sortings agree up to a first place, where they hold two such texts. -/
theorem lowerCase_swap_first_difference {x y : String} (differ : x ≠ y) (alike : lower x = lower y)
    (rest : List (Option String)) (texts : none ∉ rest) :
    ∃ common u w more more',
      sortedBy .lowerCase (some x :: some y :: rest) = common ++ some u :: more ∧
      sortedBy .lowerCase (some y :: some x :: rest) = common ++ some w :: more' ∧ u ≠ w ∧
      lower u = lower w := by
  have xy := (lowerCase_le_iff x y).mpr alike.le
  have yx := (lowerCase_le_iff y x).mpr alike.ge
  have texts' : none ∉ some x :: some y :: rest := by simp [texts]
  exact lowerCase_first_difference texts' (fun _ => (List.Perm.swap (some y) (some x) rest).mem_iff)
    (sortedBy_swap_ne .lowerCase (fun same => differ (Option.some.inj same)) xy yx rest)

/-! ### Kept pairs and partners -/

/-- The pairs a summary keeps: those with no standalone member. -/
def keptBy {α : Type} [BEq α] (standalone : List α) (pairs : List (α × α)) : List (α × α) :=
  pairs.filter fun (a, b) => !standalone.contains a && !standalone.contains b

/-- The partners of a first member among pairs. -/
def partnersOf {α : Type} [BEq α] (first : α) (pairs : List (α × α)) : List α :=
  (pairs.filter (·.1 == first)).map (·.2)

theorem mem_of_mem_keptBy {α : Type} [BEq α] {standalone : List α} {pairs : List (α × α)}
    {pair : α × α} (kept : pair ∈ keptBy standalone pairs) : pair ∈ pairs :=
  (List.mem_filter.mp kept).1

theorem mem_keptBy_congr {standalone standalone' : List (Option String)}
    {pairs pairs' : List (Option String × Option String)}
    (sameStandalone : ∀ v, v ∈ standalone ↔ v ∈ standalone')
    (samePairs : ∀ p, p ∈ pairs ↔ p ∈ pairs') (p : Option String × Option String) :
    p ∈ keptBy standalone pairs ↔ p ∈ keptBy standalone' pairs' := by
  simp [keptBy, sameStandalone, samePairs]

/-- Which pairs are kept depends only on the members of the standalone terms. -/
theorem keptBy_congr {α : Type} [BEq α] [LawfulBEq α] {standalone standalone' : List α}
    (same : ∀ v, v ∈ standalone ↔ v ∈ standalone') (pairs : List (α × α)) :
    keptBy standalone pairs = keptBy standalone' pairs := by
  simp [keptBy, same]

theorem keptBy_cons_of_mem {α : Type} [BEq α] {standalone : List α} {pair : α × α}
    {pairs pairs' : List (α × α)} (kept : pair ∈ keptBy standalone pairs') :
    keptBy standalone (pair :: pairs) = pair :: keptBy standalone pairs :=
  List.filter_cons_of_pos (List.mem_filter.mp kept).2

theorem mem_partnersOf {α : Type} [BEq α] [LawfulBEq α] {first partner : α} {pairs : List (α × α)} :
    partner ∈ partnersOf first pairs ↔ (first, partner) ∈ pairs := by
  simp [partnersOf]

theorem mem_partnersOf_congr {pairs pairs' : List (Option String × Option String)}
    (same : ∀ p, p ∈ pairs ↔ p ∈ pairs') (first b : Option String) :
    b ∈ partnersOf first pairs ↔ b ∈ partnersOf first pairs' := by
  rw [mem_partnersOf, mem_partnersOf, same]

theorem partnersOf_cons_of_ne {α : Type} [BEq α] [LawfulBEq α] {first other : α}
    (differ : other ≠ first) (partner : α) (pairs : List (α × α)) :
    partnersOf first ((other, partner) :: pairs) = partnersOf first pairs := by
  simp [partnersOf, differ]

theorem partnersOf_cons_self {α : Type} [BEq α] [LawfulBEq α] (first partner : α)
    (pairs : List (α × α)) :
    partnersOf first ((first, partner) :: pairs) = partner :: partnersOf first pairs := by
  simp [partnersOf]

/-- Pairs with distinct first members can be walked in either order without changing anyone's
partners. -/
theorem partnersOf_swap {α : Type} [BEq α] [LawfulBEq α] {pair pair' : α × α}
    (differ : pair.1 ≠ pair'.1) (first : α) (pairs : List (α × α)) :
    partnersOf first (pair :: pair' :: pairs) = partnersOf first (pair' :: pair :: pairs) := by
  by_cases here : pair.1 = first
  · have there : pair'.1 ≠ first := fun same => differ (here.trans same.symm)
    simp [partnersOf, here, there]
  · simp [partnersOf, List.filter_cons, here]

/-! ### Groups -/

theorem groupPairs_eq (order : ListingOrder) (standalone : List (Option String))
    (pairs : List (Option String × Option String)) :
    groupPairs order standalone pairs =
      (order.sort ((keptBy standalone pairs).map (·.1)) >>= fun firsts =>
        firsts.mapM fun a => (order.sort (partnersOf a (keptBy standalone pairs))).map (a, ·)) :=
  rfl

/-- Grouping the kept pairs by first member gives the same groups for collections with the same
members, when the order ranks no two distinct first members alike, nor two distinct partners of
one first member. -/
theorem groupPairs_congr (order : ListingOrder) {standalone standalone' : List (Option String)}
    {pairs pairs' : List (Option String × Option String)}
    (sameStandalone : ∀ v, v ∈ standalone ↔ v ∈ standalone')
    (samePairs : ∀ p, p ∈ pairs ↔ p ∈ pairs')
    (firstsApart : order.Apart ((keptBy standalone pairs).map (·.1)))
    (partnersApart : ∀ first, order.Apart (partnersOf first (keptBy standalone pairs))) :
    groupPairs order standalone pairs = groupPairs order standalone' pairs' := by
  have kept := mem_keptBy_congr sameStandalone samePairs
  have firsts : ∀ a, a ∈ (keptBy standalone pairs).map (·.1) ↔
      a ∈ (keptBy standalone' pairs').map (·.1) := by
    intro a
    simp only [List.mem_map, kept]
  rw [groupPairs_eq, groupPairs_eq, order.sort_congr firsts firstsApart]
  congr
  funext listed
  congr
  funext first
  rw [order.sort_congr (mem_partnersOf_congr kept first) (partnersApart first)]

/-- The groups of the kept pairs: each first member, in listing order, with its partners. -/
def groupsOf (order : ListingOrder) (standalone : List (Option String))
    (pairs : List (Option String × Option String)) : List (Option String × List (Option String)) :=
  (sortedBy order ((keptBy standalone pairs).map (·.1))).map fun first =>
    (first, sortedBy order (partnersOf first (keptBy standalone pairs)))

/-- Grouping pairs of texts by lower-case form does not fail. -/
theorem groupPairs_lowerCase_of_texts (standalone : List (Option String))
    {pairs : List (Option String × Option String)}
    (texts : ∀ pair ∈ pairs, pair.1 ≠ none ∧ pair.2 ≠ none) :
    groupPairs .lowerCase standalone pairs = .ok (groupsOf .lowerCase standalone pairs) := by
  have keptTexts : ∀ pair ∈ keptBy standalone pairs, pair.1 ≠ none ∧ pair.2 ≠ none :=
    fun pair member => texts pair (mem_of_mem_keptBy member)
  have firsts : none ∉ (keptBy standalone pairs).map (·.1) := by
    intro member
    obtain ⟨pair, kept, first⟩ := List.mem_map.mp member
    exact (keptTexts pair kept).1 first
  have partners : ∀ first, none ∉ partnersOf first (keptBy standalone pairs) :=
    fun first member => (keptTexts _ (mem_partnersOf.mp member)).2 rfl
  have each : (fun first => (ListingOrder.lowerCase.sort
      (partnersOf first (keptBy standalone pairs))).map (first, ·)) =
      fun first =>
        pure (first, sortedBy .lowerCase (partnersOf first (keptBy standalone pairs))) := by
    funext first
    rw [lowerCase_sort_of_texts (partners first)]
    rfl
  rw [groupPairs_eq, lowerCase_sort_of_texts firsts, each]
  exact List.mapM_pure

/-- Walking two kept pairs first puts their first members first among those grouped. -/
theorem groupsOf_cons_cons (order : ListingOrder) {standalone : List (Option String)}
    {pairs : List (Option String × Option String)} {pair pair' : Option String × Option String}
    (kept : pair ∈ keptBy standalone pairs) (kept' : pair' ∈ keptBy standalone pairs) :
    groupsOf order standalone (pair :: pair' :: pairs) =
      (sortedBy order (pair.1 :: pair'.1 :: (keptBy standalone pairs).map (·.1))).map fun first =>
        (first, sortedBy order (partnersOf first (pair :: pair' :: keptBy standalone pairs))) := by
  rw [groupsOf, keptBy_cons_of_mem kept, keptBy_cons_of_mem kept']
  rfl

/-- Two functions that agree away from one member of a list without repetitions map it to lists
that differ at most at that member's place. -/
theorem map_eq_of_agree_off {α β : Type} (f g : α → β) {values : List α} {a : α}
    (nodup : values.Nodup) (member : a ∈ values) (agree : ∀ b ∈ values, b ≠ a → f b = g b) :
    ∃ before after,
      values.map f = before ++ f a :: after ∧ values.map g = before ++ g a :: after := by
  obtain ⟨front, back, rfl⟩ := List.append_of_mem member
  have fresh : a ∉ front ∧ a ∉ back := by
    have := (List.nodup_middle.mp nodup)
    simp only [List.nodup_cons, List.mem_append, not_or] at this
    exact this.1
  refine ⟨front.map f, back.map f, by simp, ?_⟩
  have front_eq : front.map g = front.map f := List.map_congr_left fun b inFront =>
    (agree b (by simp [inFront]) fun same => fresh.1 (same ▸ inFront)).symm
  have back_eq : back.map g = back.map f := List.map_congr_left fun b inBack =>
    (agree b (by simp [inBack]) fun same => fresh.2 (same ▸ inBack)).symm
  simp [front_eq, back_eq]

/-- Walking two pairs of one first member the other way round changes only the group of that
member, and in it only the order in which its partners are walked. -/
theorem groups_of_partners_swap (order : ListingOrder) (kept : List (Option String × Option String))
    (first partner partner' : Option String) :
    ∃ before after,
      (sortedBy order (first :: first :: kept.map (·.1))).map (fun a =>
          (a, sortedBy order (partnersOf a ((first, partner) :: (first, partner') :: kept)))) =
        before ++ (first, sortedBy order (partner :: partner' :: partnersOf first kept)) :: after ∧
      (sortedBy order (first :: first :: kept.map (·.1))).map (fun a =>
          (a, sortedBy order (partnersOf a ((first, partner') :: (first, partner) :: kept)))) =
        before ++ (first, sortedBy order (partner' :: partner :: partnersOf first kept)) ::
          after := by
  obtain ⟨before, after, one, other⟩ := map_eq_of_agree_off
    (fun a => (a, sortedBy order (partnersOf a ((first, partner) :: (first, partner') :: kept))))
    (fun a => (a, sortedBy order (partnersOf a ((first, partner') :: (first, partner) :: kept))))
    (nodup_sortedBy order _) (mem_sortedBy.mpr List.mem_cons_self) fun a _ elsewhere => by
      have other : first ≠ a := fun same => elsewhere same.symm
      simp only [partnersOf_cons_of_ne other]
  refine ⟨before, after, ?_, ?_⟩
  · rw [one, partnersOf_cons_self, partnersOf_cons_self]
  · rw [other, partnersOf_cons_self, partnersOf_cons_self]

/-! ### Summary texts -/

/-- The order ranks no two distinct members alike in any of the lists a summary sorts: the
standalone terms, the excluded terms, the first members of the kept pairs and the partners of each
first member. -/
structure ListingOrder.SortsApart (order : ListingOrder)
    (standalone excluded : List (Option String))
    (pairs : List (Option String × Option String)) : Prop where
  standaloneApart : order.Apart standalone
  excludedApart : order.Apart excluded
  firstsApart : order.Apart ((keptBy standalone pairs).map (·.1))
  partnersApart : ∀ first, order.Apart (partnersOf first (keptBy standalone pairs))

theorem summaryText_eq (order : ListingOrder) (standalone excluded : List (Option String))
    (pairs : List (Option String × Option String)) :
    summaryText order standalone excluded pairs =
      (order.sort standalone >>= fun shownStandalone => order.sort excluded >>= fun shownExcluded =>
        (groupPairs order standalone pairs).map (printSummary shownStandalone shownExcluded)) :=
  rfl

/-- Collections with the same members print the same summary when the order ranks no two distinct
members alike in any list it sorts. -/
theorem summaryText_congr (order : ListingOrder) {standalone standalone' excluded excluded' :
      List (Option String)} {pairs pairs' : List (Option String × Option String)}
    (sameStandalone : ∀ v, v ∈ standalone ↔ v ∈ standalone')
    (sameExcluded : ∀ v, v ∈ excluded ↔ v ∈ excluded')
    (samePairs : ∀ p, p ∈ pairs ↔ p ∈ pairs')
    (apart : order.SortsApart standalone excluded pairs) :
    summaryText order standalone excluded pairs =
      summaryText order standalone' excluded' pairs' := by
  rw [summaryText_eq, summaryText_eq, order.sort_congr sameStandalone apart.standaloneApart,
    order.sort_congr sameExcluded apart.excludedApart,
    groupPairs_congr order sameStandalone samePairs apart.firstsApart apart.partnersApart]

/-- A summary of texts sorted by lower-case form does not fail. -/
theorem summaryText_lowerCase_of_texts {standalone excluded : List (Option String)}
    {pairs : List (Option String × Option String)} (standaloneTexts : none ∉ standalone)
    (excludedTexts : none ∉ excluded) (pairTexts : ∀ pair ∈ pairs, pair.1 ≠ none ∧ pair.2 ≠ none) :
    summaryText .lowerCase standalone excluded pairs =
      .ok (printSummary (sortedBy .lowerCase standalone) (sortedBy .lowerCase excluded)
        (groupsOf .lowerCase standalone pairs)) := by
  rw [summaryText_eq, lowerCase_sort_of_texts standaloneTexts,
    lowerCase_sort_of_texts excludedTexts,
    groupPairs_lowerCase_of_texts standalone pairTexts]
  rfl

end Listening.Query
