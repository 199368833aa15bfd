import Listening.Proofs.SummaryOrder

/-!
# Summaries and the walks of their collections

The collections a summary prints are sets, walked in some order. By code point a summary prints
one text however its collections are walked (`walkFree_codePoint`). By lower-case form it does
exactly when no list it sorts holds two distinct texts with the same lower-case form
(`summary_walk_free_iff_no_case_clash`): the standalone terms, the excluded terms, the first
members of the kept pairs, and the partners of any one first member.

One way round is `summaryText_congr`. For the other, two clashing texts of one list are walked in
both orders. The sorted lists then agree up to a first place, where they hold two distinct texts
with one lower-case form; the printed summaries share everything before the term written from
that place (`printSummary_standalone`, `printSummary_group`, …), and a term and another with the
same lower-case form cannot both start there unless they are equal
(`eq_of_append_eq_of_lower_eq`).

A summary that is written is walk-free (`summarize_walkFree`). The check behind it is wider than
the theorem needs: it looks for a clash among all terms of the three collections at once.
-/

namespace Listening.Query

open Listening.Text

/-! ### Where two texts differ -/

/-- Lower-casing writes one character for each character, and two for a capital I with dot
above, whatever stands before. -/
theorem length_lowerFrom (before text : List Char) :
    (lowerFrom before text).length = text.length + text.count '\u0130' := by
  induction text generalizing before with
  | nil => rfl
  | cons c rest restLength =>
    rw [lowerFrom, List.length_append, restLength, List.length_cons, List.count_cons]
    by_cases dotted : c = '\u0130'
    · subst dotted
      simp
      omega
    · by_cases sigma : c = 'Σ'
      · subst sigma
        simp
        omega
      · simp [dotted, sigma]
        omega

/-- A text that starts with another and has the same lower-case form is that text: its extra
characters would lengthen the lower-case form. -/
theorem eq_of_lower_eq_of_longer {u w : String} {extra : List Char}
    (longer : w.toList = u.toList ++ extra) (alike : lower u = lower w) : u = w := by
  have lengths := congrArg (fun text => text.toList.length) alike
  simp only [lower, String.toList_ofList, length_lowerFrom, longer, List.length_append,
    List.count_append] at lengths
  have empty : extra = [] := List.length_eq_zero_iff.mp (by omega)
  rw [empty, List.append_nil] at longer
  exact String.toList_inj.mp longer.symm

/-- Two texts with one lower-case form are equal when each, followed by more text, spells the
same characters. -/
theorem eq_of_append_eq_of_lower_eq {u w : String} {rest rest' : List Char}
    (same : u.toList ++ rest = w.toList ++ rest') (alike : lower u = lower w) : u = w := by
  rcases List.append_eq_append_iff.mp same with ⟨extra, longer, -⟩ | ⟨extra, longer, -⟩
  · exact eq_of_lower_eq_of_longer longer alike
  · exact (eq_of_lower_eq_of_longer longer alike.symm).symm

/-- In text joined from lines, a line starts after the lines before it, each with its
separator. -/
theorem toList_intercalate_middle (separator middle : String) (before after : List String) :
    ∃ rest, (separator.intercalate (before ++ middle :: after)).toList =
      before.flatMap (fun line => line.toList ++ separator.toList) ++ middle.toList ++ rest := by
  induction before with
  | nil =>
    cases after with
    | nil => exact ⟨[], by simp⟩
    | cons next more =>
      refine ⟨(separator ++ separator.intercalate (next :: more)).toList, ?_⟩
      rw [List.nil_append, String.intercalate_cons_cons, String.append_assoc]
      simp
  | cons line more restStarts =>
    obtain ⟨rest, starts⟩ := restStarts
    refine ⟨rest, ?_⟩
    rw [List.cons_append, String.intercalate_cons_of_ne_nil (by simp), String.toList_append,
      String.toList_append, starts]
    simp

/-- A printed summary whose text starts, before a term, the same way as another's but holds a
different term with the same lower-case form there, differs from it. -/
theorem printSummary_ne_of_differ {first second : String} {common rest rest' : List Char}
    {u w : String} (firstText : first.toList = common ++ u.toList ++ rest)
    (secondText : second.toList = common ++ w.toList ++ rest') (differ : u ≠ w)
    (alike : lower u = lower w) : first ≠ second := by
  intro same
  rw [same, secondText, List.append_assoc, List.append_assoc] at firstText
  exact differ (eq_of_append_eq_of_lower_eq (List.append_cancel_left firstText).symm alike)

/-! ### The layout of a printed summary -/

/-- The characters of lines joined by line breaks, up to the line that follows them. -/
def linesBefore (lines : List String) : List Char :=
  lines.flatMap fun line => line.toList ++ "\n".toList

/-- A printed summary as the lines before one of its lines, that line, and the rest: a term of
that line starts after the lines before it and the line's own characters before the term. -/
theorem printSummary_toList_of_lines (line : String) {standalone excluded : List (Option String)}
    {groups : List (Option String × List (Option String))} {before : List String}
    {u : String} {lead : List Char}
    (lines : ∃ after, sectionLines "Standalone Terms:" (standalone.map shownValue) ++
      sectionLines "Excluded Terms:" (excluded.map shownValue) ++
      ("Requires Another:" :: (if groups.isEmpty then [" (none)", ""]
        else groups.map groupLine ++ [""])) = before ++ line :: after)
    (inLine : ∃ tail, line.toList = lead ++ u.toList ++ tail) :
    ∃ rest, (printSummary standalone excluded groups).toList =
      linesBefore before ++ lead ++ u.toList ++ rest := by
  obtain ⟨after, lines⟩ := lines
  obtain ⟨tail, inLine⟩ := inLine
  obtain ⟨rest, starts⟩ := toList_intercalate_middle "\n" line before after
  refine ⟨tail ++ rest ++ "\n".toList, ?_⟩
  simp only [printSummary, lines, String.toList_append, starts, inLine, linesBefore,
    List.append_assoc]

/-- A term listed among the standalone terms starts after the terms before it. -/
theorem printSummary_standalone (common rest : List (Option String)) (u : String)
    (excluded : List (Option String)) (groups : List (Option String × List (Option String))) :
    ∃ after, (printSummary (common ++ some u :: rest) excluded groups).toList =
      linesBefore ("Standalone Terms:" :: common.map (" - " ++ shownValue ·)) ++ " - ".toList ++
        u.toList ++ after := by
  refine printSummary_toList_of_lines (" - " ++ u) ?_ ⟨[], by simp⟩
  simp [sectionLines, shownValue, Function.comp_def]

/-- A term listed among the excluded terms starts after the standalone section and the excluded
terms before it. -/
theorem printSummary_excluded (standalone common rest : List (Option String)) (u : String)
    (groups : List (Option String × List (Option String))) :
    ∃ after, (printSummary standalone (common ++ some u :: rest) groups).toList =
      linesBefore (sectionLines "Standalone Terms:" (standalone.map shownValue) ++
        "Excluded Terms:" :: common.map (" - " ++ shownValue ·)) ++ " - ".toList ++ u.toList ++
        after := by
  refine printSummary_toList_of_lines (" - " ++ u) ?_ ⟨[], by simp⟩
  simp [sectionLines, shownValue, Function.comp_def]

/-- The line of a group starts with its first member. -/
theorem groupLine_starts (first : String) (partners : List (Option String)) :
    ∃ tail, (groupLine (some first, partners)).toList = " - ".toList ++ first.toList ++ tail := by
  unfold groupLine
  split <;> exact ⟨_, by simp [shownValue]; rfl⟩

/-- The line of a group with several partners lists each partner after the ones before it. -/
theorem groupLine_partner (first : Option String) (before after : List (Option String)) (u : String)
    (several : (before ++ some u :: after).length ≠ 1) :
    ∃ tail, (groupLine (first, before ++ some u :: after)).toList =
      (" - " ++ shownValue first ++ " must appear with (").toList ++
        (before.map shownValue).flatMap (fun p => p.toList ++ ", ".toList) ++ u.toList ++ tail := by
  obtain ⟨rest, starts⟩ :=
    toList_intercalate_middle ", " u (before.map shownValue) (after.map shownValue)
  refine ⟨rest ++ ")".toList, ?_⟩
  unfold groupLine
  split
  · rename_i single one
    exact absurd (congrArg List.length one) several
  · simp only [List.map_append, List.map_cons, shownValue, Option.getD_some] at starts ⊢
    simp [starts]

/-- A term in the line of a group starts after the two term sections, the groups before it and
what the line holds before the term. -/
theorem printSummary_group (standalone excluded : List (Option String))
    (common rest : List (Option String × List (Option String)))
    (group : Option String × List (Option String)) {lead : List Char} {u : String}
    (inLine : ∃ tail, (groupLine group).toList = lead ++ u.toList ++ tail) :
    ∃ after, (printSummary standalone excluded (common ++ group :: rest)).toList =
      linesBefore (sectionLines "Standalone Terms:" (standalone.map shownValue) ++
        sectionLines "Excluded Terms:" (excluded.map shownValue) ++
        "Requires Another:" :: common.map groupLine) ++ lead ++ u.toList ++ after := by
  refine printSummary_toList_of_lines (groupLine group) ?_ inLine
  simp

theorem printSummary_standalone_ne (common rest rest' : List (Option String)) {u w : String}
    (differ : u ≠ w) (alike : lower u = lower w) (excluded : List (Option String))
    (groups : List (Option String × List (Option String))) :
    printSummary (common ++ some u :: rest) excluded groups ≠
      printSummary (common ++ some w :: rest') excluded groups := by
  obtain ⟨after, first⟩ := printSummary_standalone common rest u excluded groups
  obtain ⟨after', second⟩ := printSummary_standalone common rest' w excluded groups
  exact printSummary_ne_of_differ first second differ alike

theorem printSummary_excluded_ne (standalone common rest rest' : List (Option String))
    {u w : String} (differ : u ≠ w) (alike : lower u = lower w)
    (groups : List (Option String × List (Option String))) :
    printSummary standalone (common ++ some u :: rest) groups ≠
      printSummary standalone (common ++ some w :: rest') groups := by
  obtain ⟨after, first⟩ := printSummary_excluded standalone common rest u groups
  obtain ⟨after', second⟩ := printSummary_excluded standalone common rest' w groups
  exact printSummary_ne_of_differ first second differ alike

theorem printSummary_groups_ne (standalone excluded : List (Option String))
    (common rest rest' : List (Option String × List (Option String)))
    {group group' : Option String × List (Option String)} {lead : List Char} {u w : String}
    (inLine : ∃ tail, (groupLine group).toList = lead ++ u.toList ++ tail)
    (inLine' : ∃ tail, (groupLine group').toList = lead ++ w.toList ++ tail)
    (differ : u ≠ w) (alike : lower u = lower w) :
    printSummary standalone excluded (common ++ group :: rest) ≠
      printSummary standalone excluded (common ++ group' :: rest') := by
  obtain ⟨after, first⟩ := printSummary_group standalone excluded common rest group inLine
  obtain ⟨after', second⟩ := printSummary_group standalone excluded common rest' group' inLine'
  exact printSummary_ne_of_differ first second differ alike

/-! ### Walks of collections of texts -/

/-- The text printed for three collections of texts is the same however each is walked: for
every list of the same members, in any order and with any repetitions. -/
def WalkFree (order : ListingOrder) (standalone excluded : List String)
    (pairs : List (String × String)) : Prop :=
  ∀ (standalone' excluded' : List String) (pairs' : List (String × String)),
    (∀ v, v ∈ standalone' ↔ v ∈ standalone) →
    (∀ v, v ∈ excluded' ↔ v ∈ excluded) → (∀ q, q ∈ pairs' ↔ q ∈ pairs) →
    summaryText order (standalone'.map some) (excluded'.map some)
        (pairs'.map (Prod.map some some)) =
      summaryText order (standalone.map some) (excluded.map some) (pairs.map (Prod.map some some))

/-- Two distinct texts of a list have the same lower-case form. -/
def CaseClash (values : List String) : Prop :=
  ∃ a ∈ values, ∃ b ∈ values, a ≠ b ∧ lower a = lower b

theorem mem_map_congr {α β : Type} {values values' : List α} (same : ∀ v, v ∈ values ↔ v ∈ values')
    (f : α → β) (v : β) : v ∈ values.map f ↔ v ∈ values'.map f := by
  simp only [List.mem_map, same]

/-- Walking two members first walks the same members. -/
theorem mem_cons_cons_iff {α : Type} {a b : α} {values : List α} (aMember : a ∈ values)
    (bMember : b ∈ values) (v : α) : v ∈ a :: b :: values ↔ v ∈ values := by
  simp only [List.mem_cons]
  constructor
  · rintro (rfl | rfl | member) <;> assumption
  · exact fun member => .inr (.inr member)

theorem keptBy_map_some (standalone : List String) (pairs : List (String × String)) :
    keptBy (standalone.map some) (pairs.map (Prod.map some some)) =
      (keptBy standalone pairs).map (Prod.map some some) := by
  simp [keptBy, List.filter_map, Function.comp_def]

theorem some_mem_keptBy {standalone : List String} {pairs : List (String × String)}
    {pair : String × String} (kept : pair ∈ keptBy standalone pairs) :
    Prod.map some some pair ∈ keptBy (standalone.map some) (pairs.map (Prod.map some some)) := by
  rw [keptBy_map_some]
  exact List.mem_map_of_mem kept

theorem partnersOf_some_map (first : String) (pairs : List (String × String)) :
    partnersOf (some first) (pairs.map (Prod.map some some)) =
      (partnersOf first pairs).map some := by
  simp [partnersOf, List.filter_map, Function.comp_def]

theorem partnersOf_none_map (pairs : List (String × String)) :
    partnersOf none (pairs.map (Prod.map some some)) = [] := by
  simp [partnersOf, List.filter_map, Function.comp_def]

/-- Texts sorted by lower-case form print without failing. -/
theorem summaryText_lowerCase_texts (standalone excluded : List String)
    (pairs : List (String × String)) :
    summaryText .lowerCase (standalone.map some) (excluded.map some)
        (pairs.map (Prod.map some some)) =
      .ok (printSummary (sortedBy .lowerCase (standalone.map some))
        (sortedBy .lowerCase (excluded.map some))
        (groupsOf .lowerCase (standalone.map some) (pairs.map (Prod.map some some)))) :=
  summaryText_lowerCase_of_texts (by simp) (by simp) fun pair member => by
    obtain ⟨q, -, rfl⟩ := List.mem_map.mp member
    simp

/-- Two walks of collections whose summary by lower-case form does not depend on the walk print
the same summary. -/
theorem WalkFree.prints_alike {standalone excluded : List String} {pairs : List (String × String)}
    (free : WalkFree .lowerCase standalone excluded pairs)
    {standalone₁ standalone₂ excluded₁ excluded₂ : List String}
    {pairs₁ pairs₂ : List (String × String)}
    (standaloneWalk₁ : ∀ v, v ∈ standalone₁ ↔ v ∈ standalone)
    (excludedWalk₁ : ∀ v, v ∈ excluded₁ ↔ v ∈ excluded) (pairsWalk₁ : ∀ q, q ∈ pairs₁ ↔ q ∈ pairs)
    (standaloneWalk₂ : ∀ v, v ∈ standalone₂ ↔ v ∈ standalone)
    (excludedWalk₂ : ∀ v, v ∈ excluded₂ ↔ v ∈ excluded)
    (pairsWalk₂ : ∀ q, q ∈ pairs₂ ↔ q ∈ pairs) :
    printSummary (sortedBy .lowerCase (standalone₁.map some))
        (sortedBy .lowerCase (excluded₁.map some))
        (groupsOf .lowerCase (standalone₁.map some) (pairs₁.map (Prod.map some some))) =
      printSummary (sortedBy .lowerCase (standalone₂.map some))
        (sortedBy .lowerCase (excluded₂.map some))
        (groupsOf .lowerCase (standalone₂.map some) (pairs₂.map (Prod.map some some))) := by
  have agree := (free _ _ _ standaloneWalk₁ excludedWalk₁ pairsWalk₁).trans
    (free _ _ _ standaloneWalk₂ excludedWalk₂ pairsWalk₂).symm
  rw [summaryText_lowerCase_texts, summaryText_lowerCase_texts] at agree
  exact Except.ok.inj agree

/-! ### Walks that print alike -/

/-- Sorting texts by lower-case form ranks two distinct ones alike only when they clash. -/
theorem lowerCase_apart_of_no_clash {values : List String} (noClash : ¬ CaseClash values) :
    ListingOrder.lowerCase.Apart (values.map some) := by
  intro a aMember b bMember first second
  obtain ⟨x, xMember, rfl⟩ := List.mem_map.mp aMember
  obtain ⟨y, yMember, rfl⟩ := List.mem_map.mp bMember
  by_contra differ
  exact noClash ⟨x, xMember, y, yMember, fun same => differ (congrArg some same),
    le_antisymm ((lowerCase_le_iff x y).mp first) ((lowerCase_le_iff y x).mp second)⟩

/-- Collections whose lists the order ranks apart print the same text however they are walked. -/
theorem walkFree_of_sortsApart {order : ListingOrder} {standalone excluded : List String}
    {pairs : List (String × String)}
    (apart : order.SortsApart (standalone.map some) (excluded.map some)
      (pairs.map (Prod.map some some))) :
    WalkFree order standalone excluded pairs := by
  intro standalone' excluded' pairs' sameStandalone sameExcluded samePairs
  exact (summaryText_congr order (mem_map_congr (fun v => (sameStandalone v).symm) some)
    (mem_map_congr (fun v => (sameExcluded v).symm) some)
    (mem_map_congr (fun q => (samePairs q).symm) (Prod.map some some)) apart).symm

/-- Sorting by code point, a summary does not depend on how its collections are walked. -/
theorem walkFree_codePoint (standalone excluded : List String) (pairs : List (String × String)) :
    WalkFree .codePoint standalone excluded pairs :=
  walkFree_of_sortsApart
    ⟨codePoint_apart _, codePoint_apart _, codePoint_apart _, fun _ => codePoint_apart _⟩

/-- Without clashing texts in any list the summary sorts, sorting by lower-case form ranks no two
distinct members of those lists alike. -/
theorem lowerCase_sortsApart {standalone excluded : List String} {pairs : List (String × String)}
    (standaloneApart : ¬ CaseClash standalone) (excludedApart : ¬ CaseClash excluded)
    (firstsApart : ¬ CaseClash ((keptBy standalone pairs).map (·.1)))
    (partnersApart : ∀ first, ¬ CaseClash (partnersOf first (keptBy standalone pairs))) :
    ListingOrder.lowerCase.SortsApart (standalone.map some) (excluded.map some)
      (pairs.map (Prod.map some some)) where
  standaloneApart := lowerCase_apart_of_no_clash standaloneApart
  excludedApart := lowerCase_apart_of_no_clash excludedApart
  firstsApart := by
    rw [keptBy_map_some, List.map_map]
    simpa [Function.comp_def] using lowerCase_apart_of_no_clash firstsApart
  partnersApart first := by
    rw [keptBy_map_some]
    cases first with
    | none =>
      rw [partnersOf_none_map]
      intro a member
      cases member
    | some first =>
      rw [partnersOf_some_map]
      exact lowerCase_apart_of_no_clash (partnersApart first)

/-! ### A clash shows in the text of some walk -/

/-- Two distinct standalone texts with the same lower-case form print differently when walked
the other way round. -/
theorem not_walkFree_of_standalone_clash {standalone excluded : List String}
    {pairs : List (String × String)} (clash : CaseClash standalone) :
    ¬ WalkFree .lowerCase standalone excluded pairs := by
  obtain ⟨x, xMember, y, yMember, differ, alike⟩ := clash
  intro free
  have agree := free.prints_alike (mem_cons_cons_iff xMember yMember) (fun _ => .rfl)
    (fun _ => .rfl) (mem_cons_cons_iff yMember xMember) (fun _ => .rfl) (fun _ => .rfl)
  have groups : groupsOf .lowerCase ((x :: y :: standalone).map some)
      (pairs.map (Prod.map some some)) =
      groupsOf .lowerCase ((y :: x :: standalone).map some) (pairs.map (Prod.map some some)) := by
    rw [groupsOf, groupsOf,
      keptBy_congr (mem_map_congr (fun _ => (List.Perm.swap y x _).mem_iff) some)]
  rw [groups] at agree
  obtain ⟨common, u, w, rest, rest', first, second, apart, same⟩ :=
    lowerCase_swap_first_difference differ alike (standalone.map some) (by simp)
  simp only [List.map_cons, first, second] at agree
  exact printSummary_standalone_ne common rest rest' apart same _ _ agree

/-- Two distinct excluded texts with the same lower-case form print differently when walked the
other way round. -/
theorem not_walkFree_of_excluded_clash {standalone excluded : List String}
    {pairs : List (String × String)} (clash : CaseClash excluded) :
    ¬ WalkFree .lowerCase standalone excluded pairs := by
  obtain ⟨x, xMember, y, yMember, differ, alike⟩ := clash
  intro free
  have agree := free.prints_alike (fun _ => .rfl) (mem_cons_cons_iff xMember yMember)
    (fun _ => .rfl) (fun _ => .rfl) (mem_cons_cons_iff yMember xMember) (fun _ => .rfl)
  obtain ⟨common, u, w, rest, rest', first, second, apart, same⟩ :=
    lowerCase_swap_first_difference differ alike (excluded.map some) (by simp)
  simp only [List.map_cons, first, second] at agree
  exact printSummary_excluded_ne _ common rest rest' apart same _ agree

/-- Walking two kept pairs first, in either order, prints one summary when the summary does not
depend on the walk. -/
theorem WalkFree.prints_alike_of_swap {standalone excluded : List String}
    {pairs : List (String × String)} (free : WalkFree .lowerCase standalone excluded pairs)
    {pair pair' : String × String} (kept : pair ∈ keptBy standalone pairs)
    (kept' : pair' ∈ keptBy standalone pairs) :
    let shown := keptBy (standalone.map some) (pairs.map (Prod.map some some))
    let groups (first second : Option String × Option String) :=
      (sortedBy .lowerCase (first.1 :: second.1 :: shown.map (·.1))).map fun a =>
        (a, sortedBy .lowerCase (partnersOf a (first :: second :: shown)))
    printSummary (sortedBy .lowerCase (standalone.map some)) (sortedBy .lowerCase (excluded.map some))
        (groups (Prod.map some some pair) (Prod.map some some pair')) =
      printSummary (sortedBy .lowerCase (standalone.map some))
        (sortedBy .lowerCase (excluded.map some))
        (groups (Prod.map some some pair') (Prod.map some some pair)) := by
  have agree := free.prints_alike (fun _ => .rfl) (fun _ => .rfl)
    (mem_cons_cons_iff (mem_of_mem_keptBy kept) (mem_of_mem_keptBy kept')) (fun _ => .rfl)
    (fun _ => .rfl) (mem_cons_cons_iff (mem_of_mem_keptBy kept') (mem_of_mem_keptBy kept))
  rwa [List.map_cons, List.map_cons, List.map_cons, List.map_cons,
    groupsOf_cons_cons _ (some_mem_keptBy kept) (some_mem_keptBy kept'),
    groupsOf_cons_cons _ (some_mem_keptBy kept') (some_mem_keptBy kept)] at agree

/-- Two distinct first members of kept pairs with the same lower-case form print differently when
their pairs are walked the other way round. -/
theorem not_walkFree_of_firsts_clash {standalone excluded : List String}
    {pairs : List (String × String)} (clash : CaseClash ((keptBy standalone pairs).map (·.1))) :
    ¬ WalkFree .lowerCase standalone excluded pairs := by
  obtain ⟨x, xMember, y, yMember, differ, alike⟩ := clash
  obtain ⟨⟨x, b⟩, kept, rfl⟩ := List.mem_map.mp xMember
  obtain ⟨⟨y, b'⟩, kept', rfl⟩ := List.mem_map.mp yMember
  intro free
  have agree := free.prints_alike_of_swap kept kept'
  -- Either walk leaves every first member with the same partners.
  have firsts : (Prod.map some some (y, b')).1 ≠ (Prod.map some some (x, b)).1 :=
    fun same => differ (Option.some.inj same).symm
  simp only [partnersOf_swap firsts, Prod.map_fst] at agree
  have texts :
      none ∉ (keptBy (standalone.map some) (pairs.map (Prod.map some some))).map (·.1) := by
    rw [keptBy_map_some]
    simp
  obtain ⟨common, u, w, rest, rest', first, second, apart, same⟩ :=
    lowerCase_swap_first_difference differ alike _ texts
  rw [first, second, List.map_append, List.map_append, List.map_cons, List.map_cons] at agree
  exact printSummary_groups_ne _ _ _ _ _ (groupLine_starts u _) (groupLine_starts w _) apart same
    agree

/-- Two distinct partners of one kept first member, with the same lower-case form, print
differently when their pairs are walked the other way round. -/
theorem not_walkFree_of_partners_clash {standalone excluded : List String}
    {pairs : List (String × String)} {first : String}
    (clash : CaseClash (partnersOf first (keptBy standalone pairs))) :
    ¬ WalkFree .lowerCase standalone excluded pairs := by
  obtain ⟨x, xMember, y, yMember, differ, alike⟩ := clash
  have kept := mem_partnersOf.mp xMember
  have kept' := mem_partnersOf.mp yMember
  intro free
  have agree := free.prints_alike_of_swap kept kept'
  simp only [Prod.map_apply] at agree
  obtain ⟨before, after, one, other⟩ := groups_of_partners_swap .lowerCase
    (keptBy (standalone.map some) (pairs.map (Prod.map some some))) (some first) (some x) (some y)
  rw [one, other] at agree
  have texts : none ∉ partnersOf (some first)
      (keptBy (standalone.map some) (pairs.map (Prod.map some some))) := by
    rw [keptBy_map_some, partnersOf_some_map]
    simp
  have several := length_sortedBy_ne_one .lowerCase (fun same => differ (Option.some.inj same))
    (partnersOf (some first) (keptBy (standalone.map some) (pairs.map (Prod.map some some))))
  have several' := length_sortedBy_ne_one .lowerCase
    (fun same => differ (Option.some.inj same.symm))
    (partnersOf (some first) (keptBy (standalone.map some) (pairs.map (Prod.map some some))))
  obtain ⟨common, u, w, rest, rest', sorted, sorted', apart, same⟩ :=
    lowerCase_swap_first_difference differ alike _ texts
  rw [sorted] at agree several
  rw [sorted'] at agree several'
  exact printSummary_groups_ne _ _ before after after (groupLine_partner _ common rest u several)
    (groupLine_partner _ common rest' w several') apart same agree

/-! ### The theorem -/

/-- However three collections of texts are walked, in any order and with any repetitions, a
summary sorted by code point prints one text. Sorted by lower-case form it prints one text for
every walk exactly when none of the lists it sorts holds two distinct texts with the same
lower-case form: the standalone terms, the excluded terms, the first members of the pairs kept
after dropping those with a standalone member, and the partners of any one such first member. -/
theorem summary_walk_free_iff_no_case_clash (standalone excluded : List String)
    (pairs : List (String × String)) :
    WalkFree .codePoint standalone excluded pairs ∧
      (WalkFree .lowerCase standalone excluded pairs ↔
        ¬ CaseClash standalone ∧ ¬ CaseClash excluded ∧
          ¬ CaseClash ((keptBy standalone pairs).map (·.1)) ∧
          ∀ first, ¬ CaseClash (partnersOf first (keptBy standalone pairs))) := by
  refine ⟨walkFree_codePoint standalone excluded pairs, fun free => ?_, ?_⟩
  · exact ⟨fun clash => not_walkFree_of_standalone_clash clash free,
      fun clash => not_walkFree_of_excluded_clash clash free,
      fun clash => not_walkFree_of_firsts_clash clash free,
      fun _ clash => not_walkFree_of_partners_clash clash free⟩
  · rintro ⟨standaloneApart, excludedApart, firstsApart, partnersApart⟩
    exact walkFree_of_sortsApart
      (lowerCase_sortsApart standaloneApart excludedApart firstsApart partnersApart)

/-! ### What is written -/

/-- A list of texts without two distinct ones of one lower-case form has no clash in any part of
it. -/
theorem not_caseClash_of_subset {values values' : List String} (sub : values ⊆ values')
    (apart : ¬ CaseClash values') : ¬ CaseClash values := by
  rintro ⟨a, aMember, b, bMember, differ, alike⟩
  exact apart ⟨a, sub aMember, b, sub bMember, differ, alike⟩

/-- The check a summary makes finds a clash among texts exactly when there is one. -/
theorem caseClash_map_some (values : List String) :
    caseClash (values.map some) = true ↔ CaseClash values := by
  simp [caseClash, CaseClash, shownValue]

/-- A summary that is written is the one text of every walk of its collections. Sorted by
lower-case form, none is written when any two distinct terms of the three collections have one
lower-case form; such a clash covers every clash within a list the summary sorts. -/
theorem summarize_walkFree {order : ListingOrder} {standalone excluded : List String}
    {pairs : List (String × String)} {text : String}
    (written : summarize order (standalone.map some) (excluded.map some)
      (pairs.map (Prod.map some some)) = .ok (some text)) :
    WalkFree order standalone excluded pairs := by
  cases order with
  | codePoint => exact walkFree_codePoint standalone excluded pairs
  | lowerCase =>
    let terms := standalone ++ excluded ++ pairs.flatMap fun (a, b) => [a, b]
    have apart : ¬ CaseClash terms := by
      rw [← caseClash_map_some]
      unfold summarize at written
      cases summary : summaryText .lowerCase (standalone.map some) (excluded.map some)
          (pairs.map (Prod.map some some)) with
      | error fault => simp [summary, bind, Except.bind] at written
      | ok shown =>
        simp only [summary, bind, Except.bind] at written
        have everything : List.map some standalone ++ List.map some excluded ++
            List.flatMap (fun x => [x.1, x.2]) (List.map (Prod.map some some) pairs) =
            terms.map some := by
          simp [terms, List.flatMap_map, List.map_flatMap]
        intro clash
        simp [everything, clash, pure, Except.pure] at written
    -- every list the summary sorts is drawn from the terms
    have paired : ∀ pair ∈ pairs, pair.1 ∈ terms ∧ pair.2 ∈ terms := fun pair member =>
      ⟨List.mem_append_right _ (List.mem_flatMap.mpr ⟨pair, member, by simp⟩),
        List.mem_append_right _ (List.mem_flatMap.mpr ⟨pair, member, by simp⟩)⟩
    refine walkFree_of_sortsApart (lowerCase_sortsApart ?_ ?_ ?_ fun first => ?_)
    · exact not_caseClash_of_subset (fun _ member => List.mem_append_left _
        (List.mem_append_left _ member)) apart
    · exact not_caseClash_of_subset (fun _ member => List.mem_append_left _
        (List.mem_append_right _ member)) apart
    · refine not_caseClash_of_subset (fun first member => ?_) apart
      obtain ⟨pair, kept, rfl⟩ := List.mem_map.mp member
      exact (paired pair (mem_of_mem_keptBy kept)).1
    · exact not_caseClash_of_subset (fun partner member =>
        (paired _ (mem_of_mem_keptBy (mem_partnersOf.mp member))).2) apart

/- The clash that stops a summary may stand across two collections, where every walk prints one
text: here each collection has a single term. -/
example : summarize .lowerCase [some "Apple"] [some "apple"] [] = .ok none := by decide +kernel

end Listening.Query
