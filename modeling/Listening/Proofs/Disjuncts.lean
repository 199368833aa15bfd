import Listening.Proofs.Classes
import Listening.Proofs.Meaning

/-!
# Disjuncts and the classification of a normal form

A tree built from terms by conjunction and disjunction means a disjunction of conjunctions of
terms. Its disjuncts list them: a term has itself, a disjunction the disjuncts of all its
children, and a conjunction one disjunct for every choice of one disjunct from each child, those
choices joined in order.

Normalizing keeps the disjuncts, and the normal form of such a tree is a sum: terms,
conjunctions of two or more terms, and disjunctions of sums. The classification of a sum reads
its disjuncts off directly, so the classification of the normal form reports exactly the
disjuncts of the tree: its one-term disjuncts are the standalone terms, nothing is excluded,
and two distinct terms must appear together exactly when some disjunct holds both
(`classify_normalize`).
-/

namespace Listening.Query

/-- One disjunct from each list of disjuncts, joined in order, for every choice. -/
def crossJoin : List (List (List (Option String))) → List (List (Option String))
  | [] => [[]]
  | options :: rest => options.flatMap fun first => (crossJoin rest).map (first ++ ·)

theorem mem_crossJoin_cons {options : List (List (Option String))}
    {rest : List (List (List (Option String)))} {joined : List (Option String)} :
    joined ∈ crossJoin (options :: rest) ↔
      ∃ first ∈ options, ∃ others ∈ crossJoin rest, joined = first ++ others := by
  simp only [crossJoin, List.mem_flatMap, List.mem_map]
  constructor
  · rintro ⟨first, member, others, joinedRest, rfl⟩
    exact ⟨first, member, others, joinedRest, rfl⟩
  · rintro ⟨first, member, others, joinedRest, rfl⟩
    exact ⟨first, member, others, joinedRest, rfl⟩

/-- Joining two runs of lists joins a choice for the first run with a choice for the second. -/
theorem mem_crossJoin_append {front back : List (List (List (Option String)))}
    {joined : List (Option String)} :
    joined ∈ crossJoin (front ++ back) ↔
      ∃ first ∈ crossJoin front, ∃ second ∈ crossJoin back, joined = first ++ second := by
  induction front generalizing joined with
  | nil => simp [crossJoin]
  | cons options rest restJoined =>
    rw [List.cons_append, mem_crossJoin_cons]
    constructor
    · rintro ⟨head, headMember, others, othersMember, rfl⟩
      obtain ⟨first, firstMember, second, secondMember, rfl⟩ := restJoined.mp othersMember
      exact ⟨head ++ first, mem_crossJoin_cons.mpr ⟨head, headMember, first, firstMember, rfl⟩,
        second, secondMember, by simp⟩
    · rintro ⟨whole, wholeMember, second, secondMember, rfl⟩
      obtain ⟨head, headMember, first, firstMember, rfl⟩ := mem_crossJoin_cons.mp wholeMember
      exact ⟨head, headMember, first ++ second,
        restJoined.mpr ⟨first, firstMember, second, secondMember, rfl⟩, by simp⟩

/-- Lists with the same members give joins with the same members. -/
theorem mem_crossJoin_map_congr {nodes : List Node}
    {left right : Node → List (List (Option String))}
    (same : ∀ node ∈ nodes, ∀ d, d ∈ left node ↔ d ∈ right node) (joined : List (Option String)) :
    joined ∈ crossJoin (nodes.map left) ↔ joined ∈ crossJoin (nodes.map right) := by
  induction nodes generalizing joined with
  | nil => rfl
  | cons node rest restSame =>
    have restSame' := fun others => restSame
      (fun other member => same other (List.mem_cons_of_mem _ member)) others
    simp only [List.map_cons, mem_crossJoin_cons, same node List.mem_cons_self, restSame']

namespace Node

/-- The disjuncts of a tree of terms, conjunctions and disjunctions. A negation or a node of
another kind has none: such a tree is no disjunction of conjunctions of terms. -/
def disjuncts : Node → List (List (Option String))
  | ⟨.term, value, _⟩ => [[value]]
  | ⟨.or, _, children⟩ => children.attach.flatMap fun ⟨child, _⟩ => child.disjuncts
  | ⟨.and, _, children⟩ => crossJoin (children.attach.map fun ⟨child, _⟩ => child.disjuncts)
  | ⟨.not, _, _⟩ | ⟨.other _, _, _⟩ => []

@[simp] theorem disjuncts_term (value : Option String) (children : List Node) :
    disjuncts ⟨.term, value, children⟩ = [[value]] := by
  simp [disjuncts]

@[simp] theorem disjuncts_or (value : Option String) (children : List Node) :
    disjuncts ⟨.or, value, children⟩ = children.flatMap disjuncts := by
  simp [disjuncts]

@[simp] theorem disjuncts_and (value : Option String) (children : List Node) :
    disjuncts ⟨.and, value, children⟩ = crossJoin (children.map disjuncts) := by
  simp [disjuncts]

@[simp] theorem disjuncts_not (value : Option String) (children : List Node) :
    disjuncts ⟨.not, value, children⟩ = [] := by
  simp [disjuncts]

@[simp] theorem disjuncts_other (name : String) (value : Option String) (children : List Node) :
    disjuncts ⟨.other name, value, children⟩ = [] := by
  simp [disjuncts]

end Node

/-- A conjunction spliced into its parent's list contributes the disjuncts it has itself. -/
theorem mem_crossJoin_splice (node : Node) (joined : List (Option String)) :
    joined ∈ crossJoin ((if node.kind = .and then node.children else [node]).map Node.disjuncts) ↔
      joined ∈ node.disjuncts := by
  obtain ⟨kind, value, children⟩ := node
  by_cases conj : kind = .and
  · subst conj
    simp only [if_true, Node.disjuncts_and]
  · simp [conj, crossJoin]

/-- Splicing keeps the disjuncts of a list of conjoined nodes. -/
theorem mem_crossJoin_spliceConj (nodes : List Node) (joined : List (Option String)) :
    joined ∈ crossJoin ((spliceConj nodes).map Node.disjuncts) ↔
      joined ∈ crossJoin (nodes.map Node.disjuncts) := by
  induction nodes generalizing joined with
  | nil => rfl
  | cons node rest restSame =>
    rw [spliceConj, List.flatMap_cons, ← spliceConj, List.map_append, mem_crossJoin_append,
      List.map_cons, mem_crossJoin_cons]
    simp only [mem_crossJoin_splice, restSame]

/-- Distributing a conjunction keeps its disjuncts: every choice at the first disjunction gives
the disjuncts that run through that choice. -/
theorem mem_disjuncts_distribute (value : Option String) (children : List Node)
    (joined : List (Option String)) :
    joined ∈ (distribute value children).disjuncts ↔
      joined ∈ crossJoin (children.map Node.disjuncts) := by
  fun_induction distribute value children generalizing joined with
  | case1 value children noDisjunction =>
    rw [Node.disjuncts_and, mem_crossJoin_spliceConj]
  | case2 value children before found after split choicesKeep =>
    obtain ⟨spliced, isDisjunction⟩ := splitAtFirstOr_eq split
    obtain ⟨kind, v, options⟩ := found
    simp only at isDisjunction
    subst isDisjunction
    rw [← mem_crossJoin_spliceConj, spliced]
    simp only [Node.compound, Node.disjuncts_or, List.mem_flatMap, List.mem_map, List.mem_attach,
      true_and, Subtype.exists, List.map_append, List.map_cons, mem_crossJoin_append,
      mem_crossJoin_cons]
    constructor
    · rintro ⟨_, ⟨choice, member, rfl⟩, inChoice⟩
      rw [choicesKeep ⟨choice, member⟩ choice member, List.map_append, List.map_cons,
        mem_crossJoin_append] at inChoice
      obtain ⟨first, firstMember, rest, restMember, rfl⟩ := inChoice
      obtain ⟨middle, middleMember, last, lastMember, rfl⟩ := mem_crossJoin_cons.mp restMember
      exact ⟨first, firstMember, _, ⟨middle, ⟨choice, member, middleMember⟩, last, lastMember, rfl⟩,
        rfl⟩
    · rintro ⟨first, firstMember, _, ⟨middle, ⟨choice, member, middleMember⟩, last, lastMember,
        rfl⟩, rfl⟩
      refine ⟨_, ⟨choice, member, rfl⟩, ?_⟩
      rw [choicesKeep ⟨choice, member⟩ choice member, List.map_append, List.map_cons,
        mem_crossJoin_append]
      exact ⟨first, firstMember, middle ++ last,
        mem_crossJoin_cons.mpr ⟨middle, middleMember, last, lastMember, rfl⟩, rfl⟩

/-- The normal form of a tree has the disjuncts of the tree. -/
theorem mem_disjuncts_normalize (tree : Node) (joined : List (Option String)) :
    joined ∈ (normalize tree).disjuncts ↔ joined ∈ tree.disjuncts := by
  induction tree using normalize.induct generalizing joined with
  | case1 value children childKeeps =>
    rw [normalize_and, mem_disjuncts_distribute, List.map_map, Node.disjuncts_and]
    exact mem_crossJoin_map_congr (fun child member => childKeeps child member) joined
  | case2 kind value children notConj childKeeps =>
    rw [normalize_of_ne_and notConj]
    cases kind with
    | and => exact absurd rfl notConj
    | or =>
      simp only [Node.disjuncts_or, List.flatMap_map, List.mem_flatMap]
      constructor
      · rintro ⟨child, member, inChild⟩
        exact ⟨child, member, (childKeeps child member joined).mp inChild⟩
      · rintro ⟨child, member, inChild⟩
        exact ⟨child, member, (childKeeps child member joined).mpr inChild⟩
    | term | not | other => simp

namespace Node

/-- A tree of terms with texts for values and no children, joined by conjunctions and
disjunctions of two or more children each. -/
inductive Positive : Node → Prop
  | term (text : String) : Positive (.term text)
  | conj (value : Option String) (children : List Node) (several : 2 ≤ children.length)
      (each : ∀ child ∈ children, Positive child) : Positive ⟨.and, value, children⟩
  | disj (value : Option String) (children : List Node) (several : 2 ≤ children.length)
      (each : ∀ child ∈ children, Positive child) : Positive ⟨.or, value, children⟩

/-- A disjunction of conjunctions of terms: a term with a text for value, a conjunction of two
or more such terms, or a disjunction of such trees. -/
inductive Disjunctive : Node → Prop
  | term (text : String) : Disjunctive (.term text)
  | conj (value : Option String) (children : List Node) (several : 2 ≤ children.length)
      (terms : ∀ child ∈ children, ∃ text, child = .term text) :
      Disjunctive ⟨.and, value, children⟩
  | disj (value : Option String) (children : List Node)
      (each : ∀ child ∈ children, Disjunctive child) : Disjunctive ⟨.or, value, children⟩

/-- A disjunctive tree that is neither a conjunction nor a disjunction is a term. -/
theorem Disjunctive.term_of_kind {node : Node} (disjunctive : node.Disjunctive)
    (notConj : node.kind ≠ .and) (notDisj : node.kind ≠ .or) : ∃ text, node = .term text := by
  cases disjunctive with
  | term text => exact ⟨text, rfl⟩
  | conj => exact absurd rfl notConj
  | disj => exact absurd rfl notDisj

end Node

/-- Splicing disjunctive nodes leaves disjunctive nodes that are no conjunctions. -/
theorem spliceConj_disjunctive {nodes : List Node} (each : ∀ node ∈ nodes, node.Disjunctive) :
    ∀ node ∈ spliceConj nodes, node.Disjunctive ∧ node.kind ≠ .and := by
  intro node member
  obtain ⟨source, sourceMember, fromSource⟩ := List.mem_flatMap.mp member
  cases each source sourceMember with
  | term text =>
    obtain rfl := List.mem_singleton.mp (by simpa [Node.term] using fromSource)
    exact ⟨.term text, by simp⟩
  | conj value children several terms =>
    obtain ⟨text, rfl⟩ := terms node (by simpa using fromSource)
    exact ⟨.term text, by simp [Node.term]⟩
  | disj value children disjunctive =>
    obtain rfl := List.mem_singleton.mp (by simpa using fromSource)
    exact ⟨.disj value children disjunctive, by simp⟩

/-- Splicing disjunctive nodes loses none of the places: a conjunction has two or more terms. -/
theorem length_le_spliceConj {nodes : List Node} (each : ∀ node ∈ nodes, node.Disjunctive) :
    nodes.length ≤ (spliceConj nodes).length := by
  induction nodes with
  | nil => exact Nat.le_refl _
  | cons node rest restLonger =>
    have restEach := fun other member => each other (List.mem_cons_of_mem _ member)
    have headPlaces : 1 ≤ (if node.kind = .and then node.children else [node]).length := by
      cases each node List.mem_cons_self with
      | conj value children several => simp only [if_true]; omega
      | term | disj => simp [Node.term]
    rw [spliceConj, List.flatMap_cons, ← spliceConj, List.length_append, List.length_cons]
    have := restLonger restEach
    omega

/-- A list without a first disjunction has none. -/
theorem splitAtFirstOr_none {nodes : List Node} (noSplit : splitAtFirstOr nodes = none) :
    ∀ node ∈ nodes, node.kind ≠ .or := by
  induction nodes with
  | nil => simp
  | cons first rest restNone =>
    simp only [splitAtFirstOr] at noSplit
    split at noSplit
    · cases noSplit
    · rename_i firstNotDisj
      intro node member
      rcases List.mem_cons.mp member with rfl | later
      · exact firstNotDisj
      · exact restNone (Option.map_eq_none_iff.mp noSplit) node later

/-- Distributing a conjunction of two or more disjunctive nodes gives a disjunctive tree. -/
theorem distribute_disjunctive (value : Option String) (children : List Node)
    (several : 2 ≤ children.length) (each : ∀ child ∈ children, child.Disjunctive) :
    (distribute value children).Disjunctive := by
  fun_induction distribute value children with
  | case1 value children noSplit =>
    refine .conj value _ (Nat.le_trans several (length_le_spliceConj each)) ?_
    intro node member
    obtain ⟨disjunctive, notConj⟩ := spliceConj_disjunctive each node member
    exact disjunctive.term_of_kind notConj (splitAtFirstOr_none noSplit node member)
  | case2 value children before found after split choicesDisjunctive =>
    obtain ⟨spliced, isDisjunction⟩ := splitAtFirstOr_eq split
    have splicedEach := spliceConj_disjunctive each
    rw [spliced] at splicedEach
    have longEnough : 2 ≤ (before ++ found :: after).length :=
      spliced ▸ Nat.le_trans several (length_le_spliceConj each)
    -- The disjunction cut out is disjunctive, so each of its choices is.
    have choiceEach : ∀ choice ∈ found.children, choice.Disjunctive := by
      obtain ⟨kind, v, options⟩ := found
      simp only at isDisjunction
      subst isDisjunction
      cases (splicedEach ⟨.or, v, options⟩ (by simp)).1 with
      | disj _ _ optionsEach => exact optionsEach
    refine .disj none _ ?_
    intro node member
    obtain ⟨⟨choice, choiceMember⟩, -, rfl⟩ := List.mem_map.mp member
    apply choicesDisjunctive ⟨choice, choiceMember⟩ choice choiceMember
    · simpa using longEnough
    · intro child childMember
      rcases List.mem_append.mp childMember with inBefore | inRest
      · exact (splicedEach child (List.mem_append_left _ inBefore)).1
      · rcases List.mem_cons.mp inRest with rfl | inAfter
        · exact choiceEach child choiceMember
        · exact (splicedEach child (by simp [inAfter])).1

/-- The normal form of a positive tree is disjunctive. -/
theorem normalize_disjunctive {tree : Node} (positive : tree.Positive) :
    (normalize tree).Disjunctive := by
  induction positive with
  | term text =>
    rw [Node.term, normalize_of_ne_and (by decide)]
    exact .term text
  | conj value children several each childNormal =>
    rw [normalize_and]
    refine distribute_disjunctive value _ (by simpa using several) ?_
    intro child member
    obtain ⟨source, sourceMember, rfl⟩ := List.mem_map.mp member
    exact childNormal source sourceMember
  | disj value children several each childNormal =>
    rw [normalize_of_ne_and (by decide)]
    refine .disj value _ ?_
    intro child member
    obtain ⟨source, sourceMember, rfl⟩ := List.mem_map.mp member
    exact childNormal source sourceMember

/-- The terms of a list of terms are their values. -/
theorem flatMap_terms_of_terms {children : List Node}
    (terms : ∀ child ∈ children, ∃ text, child = .term text) :
    children.flatMap Node.terms = children.map Node.value := by
  induction children with
  | nil => rfl
  | cons child rest restTerms =>
    obtain ⟨text, rfl⟩ := terms child List.mem_cons_self
    rw [List.flatMap_cons, List.map_cons,
      restTerms fun other member => terms other (List.mem_cons_of_mem _ member)]
    simp [Node.term]

/-- A conjunction of terms has one disjunct: the values of its terms, in order. -/
theorem crossJoin_terms {children : List Node}
    (terms : ∀ child ∈ children, ∃ text, child = .term text) :
    crossJoin (children.map Node.disjuncts) = [children.map Node.value] := by
  induction children with
  | nil => rfl
  | cons child rest restJoined =>
    obtain ⟨text, rfl⟩ := terms child List.mem_cons_self
    rw [List.map_cons, List.map_cons, crossJoin,
      restJoined fun other member => terms other (List.mem_cons_of_mem _ member)]
    simp [Node.term]

/-- Every value in a disjunct comes from a disjunct of one of the joined lists. -/
theorem mem_of_mem_crossJoin {factors : List (List (List (Option String)))}
    {joined : List (Option String)} (member : joined ∈ crossJoin factors) {v : Option String}
    (inJoined : v ∈ joined) : ∃ options ∈ factors, ∃ d ∈ options, v ∈ d := by
  induction factors generalizing joined with
  | nil =>
    simp only [crossJoin, List.mem_singleton] at member
    subst member
    cases inJoined
  | cons options rest restFrom =>
    obtain ⟨first, firstMember, others, othersMember, rfl⟩ := mem_crossJoin_cons.mp member
    rcases List.mem_append.mp inJoined with inFirst | inOthers
    · exact ⟨options, List.mem_cons_self, first, firstMember, inFirst⟩
    · obtain ⟨factor, factorMember, d, dMember, inD⟩ := restFrom othersMember inOthers
      exact ⟨factor, List.mem_cons_of_mem _ factorMember, d, dMember, inD⟩

/-- The disjuncts of a positive tree hold texts only. -/
theorem Node.Positive.texts {tree : Node} (positive : tree.Positive) :
    ∀ joined ∈ tree.disjuncts, ∀ v ∈ joined, ∃ text, v = some text := by
  induction positive with
  | term text =>
    intro joined member v inJoined
    simp only [Node.term, Node.disjuncts_term, List.mem_singleton] at member
    subst member
    exact ⟨text, List.mem_singleton.mp inJoined⟩
  | conj value children several each childTexts =>
    intro joined member v inJoined
    rw [Node.disjuncts_and] at member
    obtain ⟨options, optionsMember, d, dMember, inD⟩ := mem_of_mem_crossJoin member inJoined
    obtain ⟨child, childMember, rfl⟩ := List.mem_map.mp optionsMember
    exact childTexts child childMember d dMember v inD
  | disj value children several each childTexts =>
    intro joined member v inJoined
    rw [Node.disjuncts_or] at member
    obtain ⟨child, childMember, inChild⟩ := List.mem_flatMap.mp member
    exact childTexts child childMember joined inChild v inJoined

/-- The classification of a disjunctive tree reads its disjuncts: the one-term disjuncts are its
standalone terms, nothing is excluded, and the pairs are those of two distinct values of one
disjunct. -/
theorem classify_disjunctive {tree : Node} (disjunctive : tree.Disjunctive) :
    (∀ v, v ∈ (tree.classifyUnder false false).standalone ↔ [v] ∈ tree.disjuncts) ∧
    (tree.classifyUnder false false).excluded = [] ∧
    ∀ p, p ∈ (tree.classifyUnder false false).pairs ↔
      ∃ joined ∈ tree.disjuncts, ∃ a ∈ joined, ∃ b ∈ joined, a ≠ b ∧ p = orderedPair a b := by
  induction disjunctive with
  | term text => simp [Node.term]
  | conj value children several terms =>
    -- Terms under a conjunction are left to it: they add nothing of their own.
    have quiet : children.map (Node.classifyUnder false true) = children.map fun _ => {} := by
      apply List.map_congr_left
      intro child member
      obtain ⟨text, rfl⟩ := terms child member
      simp [Node.term]
    have values : (children.map Node.value).length = children.length := List.length_map _
    rw [Node.classifyUnder_and, quiet, Classification.unionAll_eq, Node.disjuncts_and,
      crossJoin_terms terms, flatMap_terms_of_terms terms]
    refine ⟨fun v => ?_, by simp [Classification.union], fun p => ?_⟩
    · simp only [Classification.union, List.mem_singleton]
      simp only [List.flatMap_map, List.nil_append, List.mem_flatMap, List.not_mem_nil, and_false,
        exists_false, false_iff]
      intro single
      have lengths := congrArg List.length single
      rw [values, List.length_singleton] at lengths
      omega
    · simp [Classification.union, mem_pairsOf]
  | disj value children each childClasses =>
    rw [Node.classifyUnder_or, Classification.unionAll_eq, Node.disjuncts_or]
    simp only [List.flatMap_map, List.mem_flatMap]
    refine ⟨fun v => ?_, ?_, fun p => ?_⟩
    · constructor
      · rintro ⟨child, member, inChild⟩
        exact ⟨child, member, ((childClasses child member).1 v).mp inChild⟩
      · rintro ⟨child, member, inChild⟩
        exact ⟨child, member, ((childClasses child member).1 v).mpr inChild⟩
    · rw [List.flatMap_eq_nil_iff]
      intro child member
      exact (childClasses child member).2.1
    · constructor
      · rintro ⟨child, member, inChild⟩
        obtain ⟨joined, joinedMember, pair⟩ := ((childClasses child member).2.2 p).mp inChild
        exact ⟨joined, ⟨child, member, joinedMember⟩, pair⟩
      · rintro ⟨joined, ⟨child, member, joinedMember⟩, pair⟩
        exact ⟨child, member, ((childClasses child member).2.2 p).mpr ⟨joined, joinedMember, pair⟩⟩

/-- The classification of the normal form of a positive tree reports exactly its disjuncts: the
standalone terms are its one-term disjuncts, nothing is excluded, and the pairs are the ordered
pairs of two distinct texts that stand in one disjunct. -/
theorem classify_normalize_reads_disjuncts (tree : Node) (positive : tree.Positive) :
    (∀ v, v ∈ (normalize tree).classify.standalone ↔ [v] ∈ tree.disjuncts) ∧
    (normalize tree).classify.excluded = [] ∧
    ∀ p, p ∈ (normalize tree).classify.pairs ↔
      ∃ joined ∈ tree.disjuncts, ∃ a b : String, some a ∈ joined ∧ some b ∈ joined ∧ a ≠ b ∧
        p = (some (min a b), some (max a b)) := by
  obtain ⟨standalone, excluded, pairs⟩ := classify_disjunctive (normalize_disjunctive positive)
  refine ⟨fun v => ?_, excluded, fun p => ?_⟩
  · rw [Node.classify, standalone, mem_disjuncts_normalize]
  · rw [Node.classify, pairs]
    constructor
    · rintro ⟨joined, member, a, aMember, b, bMember, differ, rfl⟩
      have original := (mem_disjuncts_normalize tree joined).mp member
      obtain ⟨x, rfl⟩ := positive.texts joined original a aMember
      obtain ⟨y, rfl⟩ := positive.texts joined original b bMember
      exact ⟨joined, original, x, y, aMember, bMember, fun same => differ (congrArg some same),
        orderedPair_some x y⟩
    · rintro ⟨joined, member, x, y, xMember, yMember, differ, rfl⟩
      exact ⟨joined, (mem_disjuncts_normalize tree joined).mpr member, some x, xMember, some y,
        yMember, fun same => differ (Option.some.inj same), (orderedPair_some x y).symm⟩

/-- `(a OR b) AND a` is positive, and its summary reports its disjuncts `[a, a]` and `[b, a]`. -/
theorem classify_normalize_reads_disjuncts_of_repeated_term :
    let tree : Node := ⟨.and, none, [⟨.or, none, [.term "a", .term "b"]⟩, .term "a"]⟩
    tree.Positive ∧
      ((∀ v, v ∈ (normalize tree).classify.standalone ↔ [v] ∈ tree.disjuncts) ∧
      (normalize tree).classify.excluded = [] ∧
      ∀ p, p ∈ (normalize tree).classify.pairs ↔
        ∃ joined ∈ tree.disjuncts, ∃ a b : String, some a ∈ joined ∧ some b ∈ joined ∧ a ≠ b ∧
          p = (some (min a b), some (max a b))) := by
  intro tree
  have disjunction : Node.Positive ⟨.or, none, [.term "a", .term "b"]⟩ := by
    refine .disj none _ (by decide) ?_
    intro child member
    rcases List.mem_pair.mp member with rfl | rfl <;> exact .term _
  have positive : tree.Positive := by
    refine .conj none _ (by decide) ?_
    intro child member
    rcases List.mem_pair.mp member with rfl | rfl
    · exact disjunction
    · exact .term "a"
  exact ⟨positive, classify_normalize_reads_disjuncts tree positive⟩

end Listening.Query
