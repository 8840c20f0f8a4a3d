/-
Module: CodeSplit.Proofs.CycleClasses
Purpose: the cycles of a graph are its classes of components that reach each
  other.
Main exports:
  Graph.Mutual, Graph.CycleClasses, Graph.CycleClasses.eq,
  Graph.StrongComponents, Graph.listCycles, Graph.cycles_classes
-/
import CodeSplit.Proofs.Linking
import Mathlib

namespace CodeSplit.Graph

/-! ### Components that reach each other -/

/-- Each of the components can be reached from the other. -/
def Mutual (graph : Graph) (one other : ComponentId) : Prop :=
  graph.Reaches one other ∧ graph.Reaches other one

/-- One or more edges lead from a component back to it. -/
def OnCycle (graph : Graph) (id : ComponentId) : Prop :=
  Relation.TransGen (fun id other => other ∈ graph.dependencies id) id id

/-- The lists are the classes of two or more components that reach each other,
all in order. -/
structure CycleClasses (graph : Graph) (cycles : List (List ComponentId)) :
    Prop where
  /-- Two components are in a list exactly if they reach each other. -/
  together : ∀ one other, one ≠ other →
    ((∃ cycle ∈ cycles, one ∈ cycle ∧ other ∈ cycle) ↔
      graph.Mutual one other)
  /-- They are in exactly one list. -/
  unique : ∀ one other, one ≠ other → graph.Mutual one other →
    ∃! cycle, cycle ∈ cycles ∧ one ∈ cycle
  /-- With a component, all that it reaches and is reached from are in the
  list. -/
  whole : ∀ cycle ∈ cycles, ∀ one ∈ cycle, ∀ other,
    other ∈ cycle ↔ graph.Mutual one other
  several : ∀ cycle ∈ cycles, 2 ≤ cycle.length
  ascends : ∀ cycle ∈ cycles, cycle.Pairwise (· < ·)
  /-- No list stands twice, and they are in lexicographic order. -/
  ordered : cycles.Pairwise (· < ·)

variable {graph : Graph} {one other last : ComponentId}

theorem Mutual.refl (graph : Graph) (id : ComponentId) : graph.Mutual id id :=
  ⟨.refl, .refl⟩

theorem Mutual.symm (mutual_ids : graph.Mutual one other) :
    graph.Mutual other one :=
  ⟨mutual_ids.2, mutual_ids.1⟩

theorem Mutual.trans (first : graph.Mutual one other)
    (second : graph.Mutual other last) : graph.Mutual one last :=
  ⟨first.1.trans second.1, second.2.trans first.2⟩

/-- Only components of the graph can reach another. -/
theorem Reaches.lt_of_ne (reaches : graph.Reaches one other)
    (apart : one ≠ other) : one < graph.size := by
  rcases Relation.ReflTransGen.cases_head reaches with same | ⟨next, edge, _⟩
  · exact absurd same apart
  · by_contra unknown
    rw [dependencies_of_size_le (Nat.le_of_not_lt unknown)] at edge
    cases edge

/-! ### Classes of a graph -/

/-- The components that reach a component and are reached from it. -/
def mutualClass (graph : Graph) (id : ComponentId) : List ComponentId :=
  graph.ids.filter fun other =>
    other ∈ graph.reachable id && id ∈ graph.reachable other

theorem lookup_map_pair {β : Type} (value : ComponentId → β)
    {ids : List ComponentId} {id : ComponentId} (among : id ∈ ids) :
    (ids.map fun id => (id, value id)).lookup id = some (value id) := by
  induction ids with
  | nil => cases among
  | cons first rest ih =>
      rw [List.map_cons, List.lookup_cons]
      by_cases same : id = first
      · simp [same]
      · have apart : (id == first) = false := by simpa using same
        rw [apart]
        exact ih (List.mem_of_ne_of_mem same among)

/-- What is looked up among all that is reached is the class of a component. -/
theorem classOf_eq_mutualClass {id : ComponentId} (known : id < graph.size) :
    classOf (graph.ids.map fun id => (id, graph.reachable id)) id =
      graph.mutualClass id := by
  rw [classOf, lookup_map_pair graph.reachable (mem_ids.mpr known),
    List.filter_map, List.map_map]
  exact List.map_id _

theorem mem_mutualClass (formed : graph.WellFormed) {id : ComponentId}
    (known : id < graph.size) :
    other ∈ graph.mutualClass id ↔ graph.Mutual id other := by
  rw [mutualClass, List.mem_filter, mem_ids, Bool.and_eq_true,
    decide_eq_true_eq, decide_eq_true_eq, mem_reachable formed known]
  constructor
  · rintro ⟨known', reaches, reached⟩
    exact ⟨reaches, (mem_reachable formed known').mp reached⟩
  · rintro ⟨reaches, reached⟩
    have known' := reaches.lt formed known
    exact ⟨known', reaches, (mem_reachable formed known').mpr reached⟩

theorem mutualClass_pairwise (graph : Graph) (id : ComponentId) :
    (graph.mutualClass id).Pairwise (· < ·) :=
  List.pairwise_lt_range.filter _

/-- The components of a class have one class. -/
theorem mutualClass_eq (formed : graph.WellFormed) (known : one < graph.size)
    (same : graph.Mutual one other) :
    graph.mutualClass other = graph.mutualClass one := by
  apply (mutualClass_pairwise graph other).eq_of_mem_iff
    (mutualClass_pairwise graph one)
  intro id
  rw [mem_mutualClass formed known,
    mem_mutualClass formed (same.1.lt formed known)]
  exact ⟨same.trans, same.symm.trans⟩

/-! ### Cycles as classes -/

/-- What the search for cycles lists for a component: its class, if it is the
first of several in it. -/
theorem cycles_eq (graph : Graph) :
    graph.cycles = graph.ids.filterMap fun id =>
      if 2 ≤ (graph.mutualClass id).length ∧
          (graph.mutualClass id).head? = some id
      then some (graph.mutualClass id) else none := by
  rw [cycles]
  apply List.filterMap_congr
  intro id among
  rw [classOf_eq_mutualClass (mem_ids.mp among)]
  match graph.mutualClass id with
  | [] => rfl
  | [_] => rfl
  | first :: second :: rest => simp

/-- Cycles are the classes with two or more components, each found at its first
one. -/
theorem mem_cycles {cycle : List ComponentId} :
    cycle ∈ graph.cycles ↔
      2 ≤ cycle.length ∧ ∃ id < graph.size,
        cycle.head? = some id ∧ graph.mutualClass id = cycle := by
  simp only [cycles_eq, List.mem_filterMap, Option.ite_none_right_eq_some,
    Option.some.injEq, mem_ids]
  constructor
  · rintro ⟨id, known, ⟨several, first⟩, rfl⟩
    exact ⟨several, id, known, first, rfl⟩
  · rintro ⟨several, id, known, first, rfl⟩
    exact ⟨id, known, ⟨several, first⟩, rfl⟩

/-- Cycles stand in lexicographic order: their first components ascend. -/
theorem cycles_pairwise (graph : Graph) : graph.cycles.Pairwise (· < ·) := by
  rw [cycles_eq, List.pairwise_filterMap]
  refine List.pairwise_lt_range.imp fun {id next} below => ?_
  intro cycle chosen cycle' chosen'
  rw [Option.ite_none_right_eq_some, Option.some.injEq] at chosen chosen'
  obtain ⟨⟨_, first⟩, rfl⟩ := chosen
  obtain ⟨⟨_, first'⟩, rfl⟩ := chosen'
  obtain ⟨rest, shape⟩ := List.head?_eq_some_iff.mp first
  obtain ⟨rest', shape'⟩ := List.head?_eq_some_iff.mp first'
  rw [shape, shape']
  exact List.cons_lt_cons_iff.mpr (Or.inl below)

/-- A cycle is the class of each component in it. -/
theorem eq_mutualClass_of_mem (formed : graph.WellFormed)
    {cycle : List ComponentId} (among : cycle ∈ graph.cycles)
    (found : one ∈ cycle) :
    one < graph.size ∧ cycle = graph.mutualClass one := by
  obtain ⟨_, first, known, _, rfl⟩ := mem_cycles.mp among
  have same := (mem_mutualClass formed known).mp found
  exact ⟨same.1.lt formed known, (mutualClass_eq formed known same).symm⟩

theorem two_le_length_of_mem {ids : List ComponentId} (found : one ∈ ids)
    (found' : other ∈ ids) (apart : one ≠ other) : 2 ≤ ids.length := by
  match ids with
  | [] => cases found
  | [id] =>
      rw [List.mem_singleton] at found found'
      exact absurd (found.trans found'.symm) apart
  | _ :: _ :: _ => simp

/-- The class of two components that reach each other is a cycle. -/
theorem mutualClass_mem_cycles (formed : graph.WellFormed) (apart : one ≠ other)
    (same : graph.Mutual one other) : graph.mutualClass one ∈ graph.cycles := by
  have known := same.1.lt_of_ne apart
  have members (id : ComponentId) :
      id ∈ graph.mutualClass one ↔ graph.Mutual one id :=
    mem_mutualClass formed known
  have own := (members one).mpr (.refl graph one)
  have several := two_le_length_of_mem own ((members other).mpr same) apart
  have some_first : (graph.mutualClass one).head?.isSome := by
    rw [List.isSome_head?]
    exact List.ne_nil_of_mem own
  obtain ⟨first, starts⟩ := Option.isSome_iff_exists.mp some_first
  have reached := (members first).mp (List.mem_of_head? starts)
  exact mem_cycles.mpr ⟨several, first, reached.1.lt formed known, starts,
    mutualClass_eq formed known reached⟩

theorem cycleClasses_cycles (formed : graph.WellFormed) :
    CycleClasses graph graph.cycles where
  together one other apart := by
    constructor
    · rintro ⟨cycle, among, found, found'⟩
      obtain ⟨known, rfl⟩ := eq_mutualClass_of_mem formed among found
      exact (mem_mutualClass formed known).mp found'
    · intro same
      have known := same.1.lt_of_ne apart
      exact ⟨_, mutualClass_mem_cycles formed apart same,
        (mem_mutualClass formed known).mpr (.refl graph one),
        (mem_mutualClass formed known).mpr same⟩
  unique one other apart same := by
    have known := same.1.lt_of_ne apart
    refine ⟨graph.mutualClass one, ⟨mutualClass_mem_cycles formed apart same,
      (mem_mutualClass formed known).mpr (.refl graph one)⟩, ?_⟩
    rintro cycle ⟨among, found⟩
    exact (eq_mutualClass_of_mem formed among found).2
  whole cycle among one found other := by
    obtain ⟨known, rfl⟩ := eq_mutualClass_of_mem formed among found
    exact mem_mutualClass formed known
  several _ among := (mem_cycles.mp among).1
  ascends cycle among := by
    obtain ⟨_, id, _, _, rfl⟩ := mem_cycles.mp among
    exact mutualClass_pairwise graph id
  ordered := cycles_pairwise graph

/-! ### Graphs without cycles -/

/-- A component on a cycle reaches another one and is reached from it. -/
theorem OnCycle.exists_mutual (formed : graph.WellFormed)
    (on_cycle : graph.OnCycle one) : ∃ other, one ≠ other ∧
      graph.Mutual one other := by
  obtain ⟨next, edge, back⟩ := Relation.TransGen.head'_iff.mp on_cycle
  exact ⟨next, (formed.dependencies_ne edge).symm, .single edge, back⟩

theorem Mutual.onCycle (same : graph.Mutual one other) (apart : one ≠ other) :
    graph.OnCycle one := by
  rcases Relation.reflTransGen_iff_eq_or_transGen.mp same.1 with rfl | onward
  · exact absurd rfl apart
  · exact onward.trans_left same.2

/-- A class with two or more components has two different ones. -/
theorem CycleClasses.exists_mutual {cycles : List (List ComponentId)}
    (classes : CycleClasses graph cycles) {cycle : List ComponentId}
    (among : cycle ∈ cycles) : ∃ one ∈ cycle, ∃ other ∈ cycle, one ≠ other ∧
      graph.Mutual one other := by
  have several := classes.several cycle among
  match cycle, classes.ascends cycle among with
  | first :: second :: rest, ascends =>
      have found : second ∈ first :: second :: rest := by simp
      have below := (List.pairwise_cons.mp ascends).1 second
        List.mem_cons_self
      exact ⟨first, List.mem_cons_self, second, found, ne_of_lt below,
        (classes.whole _ among first List.mem_cons_self second).mp found⟩

/-- There are no cycles exactly if no component is on one. -/
theorem cycles_eq_nil_iff (formed : graph.WellFormed) :
    graph.cycles = [] ↔ ∀ id, ¬ graph.OnCycle id := by
  constructor
  · intro none id on_cycle
    obtain ⟨other, apart, same⟩ := on_cycle.exists_mutual formed
    have among := mutualClass_mem_cycles formed apart same
    rw [none] at among
    cases among
  · intro none
    rw [List.eq_nil_iff_forall_not_mem]
    intro cycle among
    obtain ⟨one, _, other, _, apart, same⟩ :=
      (cycleClasses_cycles formed).exists_mutual among
    exact none one (same.onCycle apart)

/-! ### Cycles from strongly connected components -/

/-- The lists hold each component once, together with all that it reaches and is
reached from.  Neither they nor their members need to be in any order. -/
structure StrongComponents (graph : Graph) (parts : List (List ComponentId)) :
    Prop where
  covers : parts.flatten.Perm graph.ids
  whole : ∀ part ∈ parts, ∀ one ∈ part, ∀ other,
    other ∈ part ↔ graph.Mutual one other

/-- Lists with two or more members, each in order and all in order. -/
def listCycles (parts : List (List ComponentId)) : List (List ComponentId) :=
  ((parts.filter (1 < ·.length)).map fun part => part.mergeSort).mergeSort

/-- There is only one list of the classes of a graph. -/
theorem CycleClasses.eq {cycles cycles' : List (List ComponentId)}
    (classes : CycleClasses graph cycles)
    (classes' : CycleClasses graph cycles') : cycles = cycles' := by
  have within {cycles cycles' : List (List ComponentId)}
      (classes : CycleClasses graph cycles)
      (classes' : CycleClasses graph cycles') {cycle : List ComponentId}
      (among : cycle ∈ cycles) : cycle ∈ cycles' := by
    obtain ⟨one, found, other, _, apart, same⟩ := classes.exists_mutual among
    obtain ⟨cycle', among', found', _⟩ :=
      (classes'.together one other apart).mpr same
    have same_members : cycle = cycle' :=
      (classes.ascends cycle among).eq_of_mem_iff
        (classes'.ascends cycle' among') fun id =>
          (classes.whole cycle among one found id).trans
            (classes'.whole cycle' among' one found' id).symm
    exact same_members ▸ among'
  exact classes.ordered.eq_of_mem_iff classes'.ordered fun cycle =>
    ⟨within classes classes', within classes' classes⟩

namespace StrongComponents

variable {parts : List (List ComponentId)}

theorem nodup (strong : StrongComponents graph parts) : parts.flatten.Nodup :=
  strong.covers.symm.nodup List.nodup_range

theorem mem_listCycles {cycle : List ComponentId} :
    cycle ∈ listCycles parts ↔
      ∃ part ∈ parts, 1 < part.length ∧ part.mergeSort = cycle := by
  simp [listCycles, and_assoc]

theorem ascends (strong : StrongComponents graph parts)
    {cycle : List ComponentId} (among : cycle ∈ listCycles parts) :
    cycle.Pairwise (· < ·) := by
  obtain ⟨part, part_among, _, rfl⟩ := mem_listCycles.mp among
  have distinct := (List.nodup_flatten.mp strong.nodup).1 part part_among
  simpa using map_mergeSort_pairwise_lt id (by simpa using distinct)

theorem ordered (strong : StrongComponents graph parts) :
    (listCycles parts).Pairwise (· < ·) := by
  have disjoint := (List.nodup_flatten.mp strong.nodup).2
  have distinct : ((parts.filter (1 < ·.length)).map
      fun part => part.mergeSort).Nodup := by
    rw [List.Nodup, List.pairwise_map]
    refine (disjoint.filter _).imp_of_mem ?_
    intro part other among _ apart same
    have some_member : part ≠ [] := by
      rintro rfl
      simpa using (List.mem_filter.mp among).2
    obtain ⟨id, found⟩ := List.exists_mem_of_ne_nil part some_member
    have found' : id ∈ other.mergeSort := same ▸ List.mem_mergeSort.mpr found
    exact apart found (List.mem_mergeSort.mp found')
  simpa [listCycles] using map_mergeSort_pairwise_lt id
    (by simpa using distinct)

/-- The strongly connected components with two or more members, put in order,
are the classes of the graph. -/
theorem cycleClasses (strong : StrongComponents graph parts) :
    CycleClasses graph (listCycles parts) := by
  have whole : ∀ cycle ∈ listCycles parts, ∀ one ∈ cycle, ∀ other,
      other ∈ cycle ↔ graph.Mutual one other := by
    intro cycle among one found other
    obtain ⟨part, part_among, _, rfl⟩ := mem_listCycles.mp among
    rw [List.mem_mergeSort] at found ⊢
    exact strong.whole part part_among one found other
  have exists_cycle {one other : ComponentId} (apart : one ≠ other)
      (same : graph.Mutual one other) :
      ∃ cycle ∈ listCycles parts, one ∈ cycle := by
    have covered := strong.covers.mem_iff.mpr
      (mem_ids.mpr (same.1.lt_of_ne apart))
    obtain ⟨part, part_among, found⟩ := List.mem_flatten.mp covered
    have found' := (strong.whole part part_among one found other).mpr same
    exact ⟨part.mergeSort, mem_listCycles.mpr ⟨part, part_among,
      two_le_length_of_mem found found' apart, rfl⟩,
      List.mem_mergeSort.mpr found⟩
  refine ⟨fun one other apart => ?_, fun one other apart same => ?_, whole, ?_,
    fun _ => strong.ascends, strong.ordered⟩
  · constructor
    · rintro ⟨cycle, among, found, found'⟩
      exact (whole cycle among one found other).mp found'
    · intro same
      obtain ⟨cycle, among, found⟩ := exists_cycle apart same
      exact ⟨cycle, among, found, (whole cycle among one found other).mpr same⟩
  · obtain ⟨cycle, among, found⟩ := exists_cycle apart same
    refine ⟨cycle, ⟨among, found⟩, ?_⟩
    rintro cycle' ⟨among', found'⟩
    exact (strong.ascends among').eq_of_mem_iff (strong.ascends among)
      fun id => (whole cycle' among' one found' id).trans
        (whole cycle among one found id).symm
  · intro cycle among
    obtain ⟨part, _, several, rfl⟩ := mem_listCycles.mp among
    rwa [List.length_mergeSort]

end StrongComponents

/-! ### The cycles of a graph -/

/-- The cycles of a graph are the classes of two or more components that reach
each other.  There are none exactly if no edges lead from a component back to
it, and they are what is left of the strongly connected components, however
these are listed. -/
theorem cycles_classes {components : List Component} {mentions : Mentions}
    {documentTags : List String}
    (built : (build components mentions documentTags).outcome = .ok graph) :
    CycleClasses graph graph.cycles ∧
      (graph.cycles = [] ↔ ∀ id, ¬ graph.OnCycle id) ∧
      ∀ parts, StrongComponents graph parts →
        listCycles parts = graph.cycles := by
  have formed := wellFormed_of_build built
  have classes := cycleClasses_cycles formed
  exact ⟨classes, cycles_eq_nil_iff formed,
    fun parts strong => strong.cycleClasses.eq classes⟩

/-- Components of a house, in the order of their tags: the attic and the stairs
need each other, the cellar, the hall and the yard need each other in a circle,
which also leads to the stairs, and a zoo leads into it. -/
def houseComponents : List Component :=
  [{ tag := "room-attic", source := ⟨"attic.js"⟩,
     dependencies := ["room-stairs"] },
   { tag := "room-cellar", source := ⟨"cellar.js"⟩,
     dependencies := ["room-hall"] },
   { tag := "room-hall", source := ⟨"hall.js"⟩,
     dependencies := ["room-yard", "room-stairs"] },
   { tag := "room-stairs", source := ⟨"stairs.js"⟩,
     dependencies := ["room-attic"] },
   { tag := "room-yard", source := ⟨"yard.js"⟩,
     dependencies := ["room-cellar"] },
   { tag := "room-zoo", source := ⟨"zoo.js"⟩, dependencies := ["room-hall"] }]

/-- The graph of the house. -/
def houseGraph : Graph :=
  link houseComponents [] []

/-- The strongly connected components of the house, in no order. -/
def houseParts : List (List ComponentId) :=
  [[5], [4, 1, 2], [3, 0]]

theorem outcome_build_house :
    (build houseComponents [] []).outcome = .ok houseGraph :=
  outcome_build_of_ascending [] [] (by decide)

theorem strongComponents_house : StrongComponents houseGraph houseParts where
  covers := by decide
  whole part among one found other := by
    have formed := wellFormed_of_build outcome_build_house
    have computed : houseGraph.ids.map houseGraph.mutualClass =
        [[0, 3], [1, 2, 4], [1, 2, 4], [0, 3], [1, 2, 4], [5]] := by
      cbv
    have listed : ∀ part ∈ houseParts, ∀ one ∈ part, one < houseGraph.size ∧
        ∃ own, (houseGraph.ids.map houseGraph.mutualClass)[one]? = some own ∧
          own.Perm part := by
      rw [computed]
      simp only [houseParts, List.forall_mem_cons]
      decide
    obtain ⟨known, own, at_one, perm⟩ := listed part among one found
    have whole : houseGraph.mutualClass one = own := by
      rw [List.getElem?_map, ids, List.getElem?_range known] at at_one
      exact Option.some.inj at_one
    rw [← perm.mem_iff, ← whole, mem_mutualClass formed known]

/-- In the house there are two cycles. -/
theorem cycles_classes_house :
    (build houseComponents [] []).outcome = .ok houseGraph ∧
    StrongComponents houseGraph houseParts ∧
    listCycles houseParts = [[0, 3], [1, 2, 4]] ∧
    houseGraph.cycles = [[0, 3], [1, 2, 4]] ∧
    CycleClasses houseGraph [[0, 3], [1, 2, 4]] ∧
    ∃ id, houseGraph.OnCycle id := by
  obtain ⟨classes, none_iff, from_parts⟩ := cycles_classes outcome_build_house
  have listed : listCycles houseParts = [[0, 3], [1, 2, 4]] := by cbv
  have computed : houseGraph.cycles = [[0, 3], [1, 2, 4]] := by
    rw [← from_parts houseParts strongComponents_house, listed]
  have some_cycle : ∃ id, houseGraph.OnCycle id := by
    by_contra none
    have empty := none_iff.mpr (not_exists.mp none)
    rw [computed] at empty
    cases empty
  rw [computed] at classes
  exact ⟨outcome_build_house, strongComponents_house, listed, computed, classes,
    some_cycle⟩

end CodeSplit.Graph
