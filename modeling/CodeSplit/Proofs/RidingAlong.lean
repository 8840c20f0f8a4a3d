/-
Module: CodeSplit.Proofs.RidingAlong
Purpose: where a component goes that only one other component needs: to that
  one, unless it has been placed already for something that only it needs.
Main exports:
  Group.Together, Residue.Riding, Residue.Riding.settle, Graph.OnlyDependent,
  planGroups_rides
-/
import CodeSplit.Proofs.Isolation
import CodeSplit.Proofs.WalkOrder

namespace CodeSplit

/-!
The last tier takes the components that are left in the order of a walk.  One
that a single other component needs joins the group of that one, or starts a
group with it.  In the latter case the other one is placed before its turn, and
when its turn comes it is passed over: if a single component needs it in turn,
it does not join the group of that one any more.  So along a chain of components
with single dependents the groups depend on the order of the walk.
-/

/-! ### Sharing a group -/

namespace Group

/-- Two components are in one group. -/
def Together (groups : List Group) (one other : ComponentId) : Prop :=
  ∃ group ∈ groups, one ∈ ids group ∧ other ∈ ids group

instance (groups : List Group) (one other : ComponentId) :
    Decidable (Together groups one other) :=
  inferInstanceAs (Decidable
    (∃ group ∈ groups, one ∈ ids group ∧ other ∈ ids group))

variable {groups : List Group} {one other id : ComponentId}

theorem Together.symm (together : Together groups one other) :
    Together groups other one := by
  obtain ⟨group, among, found, found'⟩ := together
  exact ⟨group, among, found', found⟩

/-- Components in one group stay together when the groups are put in order. -/
theorem Together.arrange (together : Together groups one other) :
    Together (arrange groups) one other := by
  obtain ⟨group, among, found, found'⟩ := together
  refine ⟨Group.sorted group, mem_arrange.mpr ⟨group, among, ?_, rfl⟩,
    mem_ids_sorted.mpr found, mem_ids_sorted.mpr found'⟩
  rintro rfl
  cases found

variable {wanted : List ComponentId} {joining company : Group}

/-- Components in one group stay together when members join a group. -/
theorem Together.joinFirst (together : Together groups one other) :
    Together (joinFirst wanted joining groups) one other := by
  induction groups with
  | nil =>
      obtain ⟨_, among, _⟩ := together
      cases among
  | cons group rest ih =>
      obtain ⟨home, among, found, found'⟩ := together
      rw [Group.joinFirst]
      rcases List.mem_cons.mp among with rfl | later
      · split
        · refine ⟨_, List.mem_cons_self, ?_, ?_⟩
          · rw [ids_append]
            exact List.mem_append_left _ found
          · rw [ids_append]
            exact List.mem_append_left _ found'
        · exact ⟨home, List.mem_cons_self, found, found'⟩
      · split
        · exact ⟨home, List.mem_cons_of_mem _ later, found, found'⟩
        · obtain ⟨grown, among', inside⟩ := ih ⟨home, later, found, found'⟩
          exact ⟨grown, List.mem_cons_of_mem _ among', inside⟩

/-- Members that join come behind those of a group that holds a wanted
component, unless there is no such group. -/
theorem exists_mem_joinFirst (wanted : List ComponentId) (joining : Group)
    (groups : List Group) :
    ∃ home, home ++ joining ∈ Group.joinFirst wanted joining groups ∧
      (home = [] ∧ (∀ group ∈ groups, ¬ Holding wanted group) ∨
        home ∈ groups ∧ Holding wanted home) := by
  induction groups with
  | nil => exact ⟨[], by simp [Group.joinFirst], Or.inl (by simp)⟩
  | cons group rest ih =>
      rw [Group.joinFirst]
      split
      · rename_i holding
        exact ⟨group, List.mem_cons_self,
          Or.inr ⟨List.mem_cons_self, holding⟩⟩
      · rename_i apart
        obtain ⟨home, among, ⟨rfl, none⟩ | ⟨later, holding⟩⟩ := ih
        · exact ⟨[], List.mem_cons_of_mem _ among,
            Or.inl ⟨rfl, List.forall_mem_cons.mpr ⟨apart, none⟩⟩⟩
        · exact ⟨home, List.mem_cons_of_mem _ among,
            Or.inr ⟨List.mem_cons_of_mem _ later, holding⟩⟩

theorem mem_idsOf_joinFirst :
    id ∈ idsOf (Group.joinFirst wanted joining groups) ↔
      id ∈ idsOf groups ∨ id ∈ ids joining := by
  induction groups with
  | nil => simp [Group.joinFirst, idsOf]
  | cons group rest ih =>
      simp only [idsOf, List.flatMap_cons, List.mem_append] at ih ⊢
      rw [Group.joinFirst]
      split
      · simp only [List.flatMap_cons, ids_append, List.mem_append]
        tauto
      · simp only [List.flatMap_cons, List.mem_append, ih]
        tauto

/-- Those of a company that join a group are its members without one. -/
theorem mem_ids_free :
    id ∈ ids (company.filter fun member => member.id ∉ idsOf groups) ↔
      id ∈ ids company ∧ id ∉ idsOf groups := by
  constructor
  · intro joined
    obtain ⟨member, among, rfl⟩ := mem_ids_iff.mp joined
    obtain ⟨found, free⟩ := List.mem_filter.mp among
    exact ⟨List.mem_map_of_mem found, of_decide_eq_true free⟩
  · intro given
    obtain ⟨found, free⟩ := given
    obtain ⟨member, among, rfl⟩ := mem_ids_iff.mp found
    exact List.mem_map_of_mem
      (List.mem_filter.mpr ⟨among, decide_eq_true free⟩)

/-- After a company is settled, its members have groups as well. -/
theorem mem_idsOf_settleTogether :
    id ∈ idsOf (settleTogether company groups) ↔
      id ∈ idsOf groups ∨ id ∈ ids company := by
  rw [settleTogether, mem_idsOf_joinFirst, mem_ids_free]
  tauto

/-- Two members that are settled together share a group, if one of them had none
before. -/
theorem together_settleTogether_pair {first second : Member}
    (free : second.id ∉ idsOf groups) :
    Together (settleTogether [first, second] groups) first.id second.id := by
  obtain ⟨home, among, places⟩ := exists_mem_joinFirst
    (ids [first, second])
    ([first, second].filter fun member => member.id ∉ idsOf groups) groups
  refine ⟨_, among, ?_, ?_⟩
  · rw [ids_append, List.mem_append, mem_ids_free]
    rcases places with ⟨rfl, none⟩ | ⟨old, other, wanted, found⟩
    · -- Without a group that holds either, both are new.
      refine Or.inr ⟨by simp, fun placed => ?_⟩
      obtain ⟨group, old, found⟩ := List.mem_flatMap.mp placed
      exact none group old ⟨first.id, by simp, found⟩
    · have apart : other ≠ second.id := by
        rintro rfl
        exact free (List.mem_flatMap.mpr ⟨home, old, found⟩)
      have same : other = first.id := by
        simpa [apart] using wanted
      exact Or.inl (same ▸ found)
  · rw [ids_append, List.mem_append, mem_ids_free]
    exact Or.inr ⟨by simp, free⟩

end Group

/-! ### One step and a run -/

namespace Residue

variable {residue : Residue} {groups : List Group} {id : ComponentId}

/-- A component with one dependent is in the group of that one, or else in the
group of another component: one that is taken before it and that only it
needs. -/
def Rides (residue : Residue) (groups : List Group) (id : ComponentId)
    (parent : ResidueNode) : Prop :=
  Group.Together groups id parent.id ∨
    ∃ child node, residue.dependentsOf child = [node] ∧ node.id = id ∧
      [child, id].Sublist residue.ids ∧ Group.Together groups id child

/-- What holds when the components in front have been taken: they have groups,
and every component with one dependent rides along as soon as it has one. -/
structure Riding (residue : Residue) (front : List ComponentId)
    (groups : List Group) : Prop where
  placed : ∀ id ∈ front, id ∈ Group.idsOf groups
  rides : ∀ {id parent}, residue.dependentsOf id = [parent] →
    id ∈ Group.idsOf groups → residue.Rides groups id parent

/-- A component with one dependent is in the residue. -/
theorem WellFormed.mem_ids_of_one (formed : residue.WellFormed)
    {parent : ResidueNode} (needed : residue.dependentsOf id = [parent]) :
    id ∈ residue.ids := by
  obtain ⟨among, needs⟩ := mem_dependentsOf.mp
    (needed ▸ List.mem_cons_self : parent ∈ residue.dependentsOf id)
  exact formed.inside parent among id needs

variable {front rest : List ComponentId}

/-- A component that is placed with another one has several dependents, is the
one that is placed, or is its only dependent.  In the last case its own turn
comes later, when it is passed over. -/
theorem rides_of_mem_company (formed : residue.WellFormed)
    (split : residue.ids = front ++ id :: rest)
    (placed : ∀ other ∈ front, other ∈ Group.idsOf groups)
    (free : id ∉ Group.idsOf groups) {joined : ComponentId}
    {parent : ResidueNode} (needed : residue.dependentsOf joined = [parent])
    (joined_free : joined ∉ Group.idsOf groups)
    (joins : joined ∈ Group.ids (residue.company id)) :
    residue.Rides (Group.settleTogether (residue.company id) groups) joined
      parent := by
  match dependents : residue.dependentsOf id with
  | [] =>
      obtain rfl : joined = id := by
        simpa [company_of_none dependents] using joins
      rw [dependents] at needed
      cases needed
  | [only] =>
      have pair := company_of_one dependents
      have together : Group.Together
          (Group.settleTogether (residue.company id) groups) only.id id :=
        pair ▸ Group.together_settleTogether_pair free
      obtain rfl | rfl : joined = only.id ∨ joined = id := by
        simpa [pair] using joins
      · have other : only.id ≠ id :=
          formed.dependent_ne (dependents ▸ List.mem_cons_self)
        have later : only.id ∈ rest := by
          have among := formed.mem_ids_of_one needed
          rw [split, List.mem_append, List.mem_cons] at among
          rcases among with early | same | later
          · exact absurd (placed _ early) joined_free
          · exact absurd same other
          · exact later
        refine Or.inr ⟨id, only, dependents, rfl, ?_, together⟩
        rw [split]
        apply List.Sublist.trans _ (List.sublist_append_right front _)
        exact (List.singleton_sublist.mpr later).cons_cons id
      · obtain rfl : only = parent := by simpa [dependents] using needed
        exact Or.inl together.symm
  | _ :: _ :: _ =>
      have several : 2 ≤ (residue.dependentsOf id).length := by
        simp [dependents]
      rw [company_of_several several, ids_sharedMembers] at joins
      have more := several_of_shared several joins
      rw [needed] at more
      exact absurd more (by simp)

/-- Taking a component keeps what holds, and gives it a group. -/
theorem Riding.settle (formed : residue.WellFormed)
    (split : residue.ids = front ++ id :: rest)
    (riding : residue.Riding front groups) :
    residue.Riding (front ++ [id]) (residue.settle groups id) := by
  by_cases held : id ∈ Group.idsOf groups
  · rw [settle_of_placed held]
    refine ⟨fun other taken => ?_, riding.rides⟩
    rcases List.mem_append.mp taken with early | last
    · exact riding.placed other early
    · exact List.mem_singleton.mp last ▸ held
  · rw [settle_of_free held]
    constructor
    · intro other taken
      rw [Group.mem_idsOf_settleTogether]
      rcases List.mem_append.mp taken with early | last
      · exact Or.inl (riding.placed other early)
      · exact Or.inr (List.mem_singleton.mp last ▸ mem_company_self)
    · intro joined parent needed found
      by_cases old : joined ∈ Group.idsOf groups
      · rcases riding.rides needed old with together | carried
        · exact Or.inl together.joinFirst
        · obtain ⟨child, node, one, same, before, together⟩ := carried
          exact Or.inr ⟨child, node, one, same, before, together.joinFirst⟩
      · have joins :=
          (Group.mem_idsOf_settleTogether.mp found).resolve_left old
        exact rides_of_mem_company formed split riding.placed held needed old
          joins

/-- Taking all components keeps what holds. -/
theorem Riding.foldl_settle (formed : residue.WellFormed)
    (split : residue.ids = front ++ rest)
    (riding : residue.Riding front groups) :
    residue.Riding residue.ids (rest.foldl residue.settle groups) := by
  induction rest generalizing front groups with
  | nil =>
      rw [List.append_nil] at split
      rwa [split]
  | cons id rest ih =>
      refine ih ?_ (riding.settle formed split)
      rw [split, List.append_assoc, List.singleton_append]

/-- When all components of a residue have been taken, starting beside groups
that hold none of them, those with one dependent ride along. -/
theorem rides_foldl_settle (formed : residue.WellFormed)
    (apart : ∀ id ∈ residue.ids, id ∉ Group.idsOf groups)
    {parent : ResidueNode} (needed : residue.dependentsOf id = [parent]) :
    residue.Rides (residue.ids.foldl residue.settle groups) id parent := by
  have start : residue.Riding [] groups :=
    ⟨by simp, fun one found =>
      absurd found (apart _ (formed.mem_ids_of_one one))⟩
  have riding := start.foldl_settle formed (List.nil_append _).symm
  exact riding.rides needed (riding.placed id (formed.mem_ids_of_one needed))

end Residue

/-! ### Components with one dependent in a graph -/

namespace Graph

variable {graph : Graph} {bundles : List (List String)}
variable {id parent : ComponentId}

/-- Of all that is left to the last tier, the parent alone needs the component
directly. -/
def OnlyDependent (graph : Graph) (bundles : List (List String))
    (id parent : ComponentId) : Prop :=
  ∀ other, graph.FactorDependent bundles id other ↔ other = parent

/-- A component with an only dependent has that as its only one in a residue of
all that is left to the last tier. -/
theorem onlyDependent_iff {members : List ComponentId}
    (distinct : members.Nodup)
    (mem_members : ∀ id, id ∈ members ↔ graph.InResidue bundles id) :
    graph.OnlyDependent bundles id parent ↔
      ∃ node, (Residue.ofMembers graph members).dependentsOf id = [node] ∧
        node.id = parent := by
  simp only [OnlyDependent, factorDependent_iff mem_members]
  have distinct_ids : (((Residue.ofMembers graph members).dependentsOf
      id).map (·.id)).Nodup := by
    have nodes := Residue.ids_ofMembers graph members
    exact (nodes ▸ distinct).sublist (List.filter_sublist.map _)
  constructor
  · intro only
    match dependents : (Residue.ofMembers graph members).dependentsOf id with
    | [] =>
        obtain ⟨_, needs, _⟩ := (only parent).mpr rfl
        rw [dependents] at needs
        cases needs
    | [node] =>
        exact ⟨node, rfl, (only node.id).mp ⟨node, by simp [dependents], rfl⟩⟩
    | first :: second :: rest =>
        have same := (only first.id).mp ⟨first, by simp [dependents], rfl⟩
        have same' := (only second.id).mp ⟨second, by simp [dependents], rfl⟩
        simp [dependents, same, same'] at distinct_ids
  · intro given other
    obtain ⟨node, one, rfl⟩ := given
    simp [one, eq_comm]

end Graph

/-- A component that only one other component left to the last tier needs is in
the group of that one, or else with a component that only it needs and that the
walk from the unclaimed roots visits before it. -/
theorem planGroups_rides {components : List Component} {mentions : Mentions}
    {documentTags : List String} {graph : Graph}
    (built : (Graph.build components mentions documentTags).outcome = .ok graph)
    {walks : Walks} (faithful : walks.Faithful graph)
    (bundles : List (List String)) :
    ∃ groups last roots order,
      (planGroups graph bundles walks).outcome = .ok (groups, last) ∧
      roots.Pairwise (· < ·) ∧
      (∀ id, id ∈ roots ↔ graph.UnclaimedRoot bundles id) ∧
      graph.closureOf roots = .ok order ∧ order.Nodup ∧
      ∀ id parent, graph.OnlyDependent bundles id parent →
        Group.Together groups id parent ∨
          ∃ child, graph.OnlyDependent bundles child id ∧
            [child, id].Sublist order ∧ Group.Together groups id child := by
  have formed := Graph.wellFormed_of_build built
  obtain ⟨last, went⟩ := outcome_planGroups_settled formed bundles faithful
  -- What the last tier starts from.
  let groups := graph.settleDocument (graph.settleBundles bundles)
  let members := graph.leftBeside groups
  have mem_roots (id : ComponentId) :
      id ∈ graph.rootsBeside groups ↔ graph.UnclaimedRoot bundles id :=
    Graph.mem_rootsBeside_settleDocument formed
  have mem_members (id : ComponentId) :
      id ∈ members ↔ graph.InResidue bundles id :=
    Graph.mem_leftBeside_settleDocument formed
  have known : ∀ id ∈ graph.rootsBeside groups, id < graph.size :=
    fun id among => ((mem_roots id).mp among).1
  have once := (Walks.reachedFrom_spec formed known).1
  have distinct : members.Nodup := once.filter _
  have residue_formed := Residue.wellFormed_ofMembers formed distinct
  refine ⟨_, last, graph.rootsBeside groups, _, went, ?_, mem_roots,
    Graph.closureOf_eq_reachedFrom formed known, once,
    fun id parent only => ?_⟩
  · exact List.pairwise_lt_range.filter _
  · obtain ⟨node, needed, rfl⟩ :=
      (Graph.onlyDependent_iff distinct mem_members).mp only
    have apart : ∀ other ∈ (Residue.ofMembers graph members).ids,
        other ∉ Group.idsOf groups := by
      rw [Residue.ids_ofMembers]
      exact fun other left => of_decide_eq_true (List.mem_filter.mp left).2
    have rides := Residue.rides_foldl_settle residue_formed apart needed
    rw [Residue.Rides, Residue.ids_ofMembers] at rides
    rcases rides with together | ⟨child, own, one, same, before, together⟩
    · exact Or.inl together.arrange
    · refine Or.inr ⟨child, ?_, before.trans List.filter_sublist,
        together.arrange⟩
      exact (Graph.onlyDependent_iff distinct mem_members).mpr ⟨own, one, same⟩

/-! ### A menu -/

/-- Components of a menu, in the order of their tags, which runs against their
needs: the page shows the list, and the list its entry. -/
def menuComponents : List Component :=
  [{ tag := "menu-entry", source := ⟨"entry.js"⟩ },
   { tag := "menu-list", source := ⟨"list.js"⟩,
     dependencies := ["menu-entry"] },
   { tag := "menu-page", source := ⟨"page.js"⟩,
     dependencies := ["menu-list"] }]

/-- The graph of the menu. -/
def menuGraph : Graph :=
  Graph.link menuComponents [] []

/-- The groups of the menu. -/
def menuGroups : List Group :=
  [[{ id := 0, dependents := [1] }, { id := 1 }], [{ id := 2 }]]

theorem outcome_build_menu :
    (Graph.build menuComponents [] []).outcome = .ok menuGraph :=
  Graph.outcome_build_of_ascending [] [] (by decide)

theorem outcome_planGroups_menu :
    (planGroups menuGraph [] {}).outcome.map (·.1) = .ok menuGroups := by
  cbv

/-- All of the menu is left to the last tier. -/
theorem factorDependent_menu {id other : ComponentId} :
    menuGraph.FactorDependent [] id other ↔
      id ∈ menuGraph.dependencies other := by
  have formed := Graph.wellFormed_of_build outcome_build_menu
  have left (id : ComponentId) (known : id < 3) :
      menuGraph.InResidue [] id := by
    have own : ∀ id < 3, menuGraph.isExternal id = false := by decide
    apply Graph.UnclaimedRoot.inResidue
    refine ⟨known, own id known, ?_⟩
    rintro (⟨_, among, _⟩ | ⟨_, among, _⟩)
    · cases among
    · cases among
  constructor
  · exact fun given => given.2.2
  · intro needs
    refine ⟨left id (formed.dependencies_lt needs), left other ?_, needs⟩
    by_contra beyond
    rw [Graph.dependencies, List.getElem?_eq_none (not_lt.mp beyond)] at needs
    cases needs

/-- The page needs the list, and the list its entry. -/
theorem dependencies_menu (id : ComponentId) :
    menuGraph.dependencies id =
      match id with
      | 1 => [0]
      | 2 => [1]
      | _ => [] := by
  match id with
  | 0 => decide
  | 1 => decide
  | 2 => decide
  | _ + 3 => rfl

/-- The entry is needed by the list only, and the list by the page only. -/
theorem onlyDependent_menu_iff {id parent : ComponentId} :
    menuGraph.OnlyDependent [] id parent ↔
      id = 0 ∧ parent = 1 ∨ id = 1 ∧ parent = 2 := by
  have needs (other : ComponentId) : id ∈ menuGraph.dependencies other ↔
      id = 0 ∧ other = 1 ∨ id = 1 ∧ other = 2 := by
    rw [dependencies_menu]
    split <;> simp_all
  simp only [Graph.OnlyDependent, factorDependent_menu, needs]
  constructor
  · intro only
    simpa using only parent
  · intro given other
    rcases given with ⟨rfl, rfl⟩ | ⟨rfl, rfl⟩ <;> simp

/-- The list is not with the page, its only dependent: it was placed as the
dependent of its entry, whose tag comes first. -/
theorem planGroups_menu_apart :
    (Graph.build menuComponents [] []).outcome = .ok menuGraph ∧
    (planGroups menuGraph [] {}).outcome.map (·.1) = .ok menuGroups ∧
    menuGraph.OnlyDependent [] 1 2 ∧ ¬ Group.Together menuGroups 1 2 :=
  ⟨outcome_build_menu, outcome_planGroups_menu,
    onlyDependent_menu_iff.mpr (Or.inr ⟨rfl, rfl⟩), by decide⟩

/-- The list is with its entry, which the walk visits first, and the entry is
with the list. -/
theorem planGroups_rides_menu :
    (Graph.build menuComponents [] []).outcome = .ok menuGraph ∧
    Walks.Faithful {} menuGraph ∧
    (planGroups menuGraph [] {}).outcome.map (·.1) = .ok menuGroups ∧
    menuGraph.OnlyDependent [] 0 1 ∧ menuGraph.OnlyDependent [] 1 2 ∧
    Group.Together menuGroups 0 1 ∧
    ∃ roots order, menuGraph.closureOf roots = .ok order ∧
      [0, 1].Sublist order ∧ Group.Together menuGroups 1 0 := by
  have faithful := Walks.faithful_nil menuGraph
  have entry : menuGraph.OnlyDependent [] 0 1 :=
    onlyDependent_menu_iff.mpr (Or.inl ⟨rfl, rfl⟩)
  have list : menuGraph.OnlyDependent [] 1 2 :=
    onlyDependent_menu_iff.mpr (Or.inr ⟨rfl, rfl⟩)
  obtain ⟨groups, last, roots, order, went, _, _, walked, _, rides⟩ :=
    planGroups_rides outcome_build_menu faithful []
  have computed := outcome_planGroups_menu
  rw [went] at computed
  obtain rfl : groups = menuGroups := Except.ok.inj computed
  refine ⟨outcome_build_menu, faithful, outcome_planGroups_menu, entry, list,
    ?_, roots, order, walked, ?_⟩
  · rcases rides 0 1 entry with together | ⟨child, only, _⟩
    · exact together
    · -- Nothing is needed by the entry.
      rcases onlyDependent_menu_iff.mp only with ⟨_, same⟩ | ⟨_, same⟩
      · cases same
      · cases same
  · rcases rides 1 2 list with together | ⟨child, only, before, together⟩
    · exact absurd together (by decide)
    · rcases onlyDependent_menu_iff.mp only with ⟨rfl, _⟩ | ⟨_, same⟩
      · exact ⟨before, together⟩
      · cases same

end CodeSplit
