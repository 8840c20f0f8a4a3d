/-
Module: CodeSplit.Proofs.StylingParts
Purpose: what groups are split into by encapsulation: what each of them keeps,
  and one pool for each encapsulation of what none of them keeps.
Main exports:
  MostFrequent, Unmixed, Keeps, Pools, StylingParts, StylingParts.Apart,
  splitByStyling_parts
-/
import CodeSplit.Proofs.Styling
import Mathlib

namespace CodeSplit

/-! ### The parts of a split -/

/-- The encapsulation that most members of a group have; of several, the one
that comes first in the order of encapsulations. -/
structure MostFrequent (graph : Graph) (group : Group) (mode : Encapsulation) :
    Prop where
  most : ∀ other, (membersWith graph other group).length ≤
    (membersWith graph mode group).length
  first : ∀ other, other < mode → (membersWith graph other group).length <
    (membersWith graph mode group).length

/-- The group has members, and all of them have one encapsulation. -/
def Unmixed (graph : Graph) (group : Group) : Prop :=
  group ≠ [] ∧ ∃ mode, ∀ id ∈ Group.ids group, graph.encapsulation id = mode

/-- What a group keeps: its members with the most frequent encapsulation, as
they are and in their order. -/
def Keeps (graph : Graph) (group kept : Group) : Prop :=
  ∃ mode, MostFrequent graph group mode ∧ kept = membersWith graph mode group

/-- What no group keeps of an encapsulation, as one group: each component once,
by number, with the dependents in order that it has in one of the groups. -/
structure Pools (graph : Graph) (groups kept : List Group)
    (mode : Encapsulation) (pool : Group) : Prop where
  ascends : (Group.ids pool).Pairwise (· < ·)
  mem_ids : ∀ id, id ∈ Group.ids pool ↔
    id ∈ groups.flatMap Group.ids ∧ graph.encapsulation id = mode ∧
      id ∉ kept.flatMap Group.ids
  dependents : ∀ member ∈ pool, ∃ old ∈ groups.flatten,
    { old with dependents := ascending old.dependents } = member

/-- What groups are split into.  Components may be in several of the groups, and
in one of them several times. -/
structure StylingParts (graph : Graph) (groups kept : List Group)
    (pool : Encapsulation → Group) (split : List Group) : Prop where
  /-- Each group with members keeps some of them. -/
  keeps : List.Forall₂ (Keeps graph) (groups.filter (!·.isEmpty)) kept
  /-- There is a pool for each encapsulation. -/
  pools : ∀ mode, Pools graph groups kept mode (pool mode)
  /-- What is kept and the pools with members are all there is. -/
  parts : split.Perm
    (kept ++ (Encapsulation.all.map pool).filter (!·.isEmpty))
  /-- All stand in the order of their smallest members and then of their
  sizes. -/
  ordered : split.Pairwise fun one other => ∃ first second,
    Group.smallest? one = some first ∧ Group.smallest? other = some second ∧
      (first < second ∨ first = second ∧ one.length ≤ other.length)
  /-- All have members, with one encapsulation. -/
  unmixed : ∀ group ∈ split, Unmixed graph group
  /-- No component is lost, and none is added. -/
  mem_ids : ∀ id, id ∈ split.flatMap Group.ids ↔ id ∈ groups.flatMap Group.ids
  /-- A component in a pool is nowhere else. -/
  once : ∀ mode, ∀ id ∈ Group.ids (pool mode),
    (split.flatMap Group.ids).count id = 1

/-- What more holds where no component is in two groups, nor twice in one. -/
structure StylingParts.Apart (graph : Graph) (groups kept : List Group)
    (pool : Encapsulation → Group) (split : List Group) : Prop where
  /-- The pools hold exactly the members that were not kept. -/
  mem_pool : ∀ mode member, member ∈ pool mode ↔
    ∃ old ∈ groups.flatten, graph.encapsulation old.id = mode ∧
      old.id ∉ kept.flatMap Group.ids ∧
      { old with dependents := ascending old.dependents } = member
  /-- No two groups share their smallest member. -/
  ordered : split.Pairwise fun one other => ∃ first second,
    Group.smallest? one = some first ∧ Group.smallest? other = some second ∧
      first < second
  /-- Members of one group with one encapsulation stay together. -/
  together : ∀ group ∈ groups, ∀ one ∈ Group.ids group,
    ∀ other ∈ Group.ids group,
      graph.encapsulation one = graph.encapsulation other →
        ∀ home ∈ split, one ∈ Group.ids home ↔ other ∈ Group.ids home
  /-- No component is in two groups, nor twice in one. -/
  distinct : (split.flatMap Group.ids).Nodup

variable {graph : Graph} {groups : List Group}

/-! ### What a group keeps -/

/-- The encapsulation that a group keeps is the most frequent one. -/
theorem mostFrequent_majority (graph : Graph) (group : Group) :
    MostFrequent graph group (majority graph group) where
  most mode := length_membersWith_le_majority graph mode group
  first other before := by
    change other.rank < (majority graph group).rank at before
    revert before
    unfold majority
    simp only [Encapsulation.all, List.foldl_cons, List.foldl_nil]
    cases other <;> split_ifs <;> simp only [Encapsulation.rank] <;> omega

theorem forall₂_keptGroups (graph : Graph) (groups : List Group) :
    List.Forall₂ (Keeps graph) (groups.filter (!·.isEmpty))
      (keptGroups graph groups) := by
  rw [keptGroups, List.forall₂_map_right_iff, List.forall₂_same]
  exact fun group _ => ⟨_, mostFrequent_majority graph group, rfl⟩

/-- The components that groups keep. -/
theorem mem_ids_keptGroups {id : ComponentId} :
    id ∈ (keptGroups graph groups).flatMap Group.ids ↔
      ∃ group ∈ groups, id ∈ Group.ids group ∧
        graph.encapsulation id = majority graph group := by
  simp only [keptGroups, List.mem_flatMap, List.mem_map, List.mem_filter]
  constructor
  · rintro ⟨_, ⟨group, ⟨among, _⟩, rfl⟩, found⟩
    exact ⟨group, among, mem_ids_membersWith.mp found⟩
  · rintro ⟨group, among, found⟩
    refine ⟨_, ⟨group, ⟨among, ?_⟩, rfl⟩, mem_ids_membersWith.mpr found⟩
    cases group with
    | nil => simp at found
    | cons => rfl

/-! ### What groups shed -/

/-- A component that no group keeps is shed. -/
theorem mem_ids_shedWith {mode : Encapsulation} {id : ComponentId}
    (apart : id ∉ (keptGroups graph groups).flatMap Group.ids) :
    id ∈ Group.ids (shedWith graph mode groups) ↔
      id ∈ groups.flatMap Group.ids ∧ graph.encapsulation id = mode := by
  simp only [Group.mem_ids_iff, mem_shedWith, List.mem_flatMap]
  constructor
  · rintro ⟨member, ⟨group, among, found, own, _⟩, rfl⟩
    exact ⟨⟨group, among, member, found, rfl⟩, own⟩
  · rintro ⟨⟨group, among, member, found, rfl⟩, rfl⟩
    refine ⟨member, ⟨group, among, found, rfl, fun same => apart ?_⟩, rfl⟩
    exact mem_ids_keptGroups.mpr
      ⟨group, among, Group.mem_ids_iff.mpr ⟨member, found, rfl⟩, same.symm⟩

/-! ### Pools -/

/-- The components in the pool of an encapsulation. -/
theorem mem_ids_overflowPool {mode : Encapsulation} {id : ComponentId} :
    id ∈ Group.ids (overflowPool graph groups mode) ↔
      id ∈ groups.flatMap Group.ids ∧ graph.encapsulation id = mode ∧
        id ∉ (keptGroups graph groups).flatMap Group.ids := by
  rw [overflowPool, Group.mem_ids_sorted, mem_ids_firstOccurrences, ← and_assoc]
  exact and_congr_left mem_ids_shedWith

theorem pools_overflowPool (graph : Graph) (groups : List Group)
    (mode : Encapsulation) :
    Pools graph groups (keptGroups graph groups) mode
      (overflowPool graph groups mode) where
  ascends := Group.ids_sorted_pairwise_lt (nodup_ids_firstOccurrences _ _)
  mem_ids _ := mem_ids_overflowPool
  dependents member found := by
    obtain ⟨old, among, rfl⟩ := Group.mem_sorted.mp found
    obtain ⟨group, group_among, inside, _⟩ :=
      mem_shedWith.mp ((firstOccurrences_sublist _ _).mem among)
    exact ⟨old, List.mem_flatten.mpr ⟨group, group_among, inside⟩, rfl⟩

/-- The components in pools are those that no group keeps. -/
theorem mem_ids_pooledGroups {id : ComponentId} :
    id ∈ (pooledGroups graph groups).flatMap Group.ids ↔
      id ∈ groups.flatMap Group.ids ∧
        id ∉ (keptGroups graph groups).flatMap Group.ids := by
  rw [← ids_flatten, pooledGroups, List.flatten_filter_not_isEmpty,
    ids_flatten, List.flatMap_map, List.mem_flatMap]
  constructor
  · rintro ⟨mode, _, found⟩
    obtain ⟨inside, _, apart⟩ := mem_ids_overflowPool.mp found
    exact ⟨inside, apart⟩
  · intro given
    exact ⟨graph.encapsulation id, Encapsulation.mem_all _,
      mem_ids_overflowPool.mpr ⟨given.1, rfl, given.2⟩⟩

/-- No component is in two pools, nor twice in one. -/
theorem nodup_ids_pooledGroups (graph : Graph) (groups : List Group) :
    ((pooledGroups graph groups).flatMap Group.ids).Nodup := by
  rw [← ids_flatten, pooledGroups, List.flatten_filter_not_isEmpty,
    ids_flatten, List.flatMap_map, List.nodup_flatMap]
  constructor
  · intro mode _
    exact (pools_overflowPool graph groups mode).ascends.imp ne_of_lt
  · have different : Encapsulation.all.Nodup := by decide
    refine different.imp fun {mode other} apart id found found' => apart ?_
    have own := (mem_ids_overflowPool.mp found).2.1
    exact own.symm.trans (mem_ids_overflowPool.mp found').2.1

/-! ### All groups after splitting -/

theorem ids_splitByStyling_perm_append (graph : Graph) (groups : List Group) :
    ((splitByStyling graph groups).flatMap Group.ids).Perm
      ((keptGroups graph groups).flatMap Group.ids ++
        (pooledGroups graph groups).flatMap Group.ids) := by
  rw [splitByStyling_eq_sortGroups, ← List.flatMap_append]
  exact ids_sortGroups_perm _

/-- Splitting leaves groups with members, all with one encapsulation. -/
theorem unmixed_of_mem_splitByStyling {group : Group}
    (among : group ∈ splitByStyling graph groups) : Unmixed graph group := by
  rcases mem_splitByStyling.mp among with kept | pooled
  · obtain ⟨old, old_among, rfl⟩ := List.mem_map.mp kept
    have some_member : old ≠ [] := by
      simpa using (List.mem_filter.mp old_among).2
    exact ⟨majority_ne_nil some_member, majority graph old,
      fun id found => (mem_ids_membersWith.mp found).2⟩
  · obtain ⟨mapped, some_member⟩ := List.mem_filter.mp pooled
    obtain ⟨mode, _, rfl⟩ := List.mem_map.mp mapped
    exact ⟨by simpa using some_member, mode, fun id found =>
      (mem_ids_overflowPool.mp found).2.1⟩

/-- Splitting loses no component. -/
theorem mem_ids_splitByStyling {id : ComponentId} :
    id ∈ (splitByStyling graph groups).flatMap Group.ids ↔
      id ∈ groups.flatMap Group.ids := by
  rw [(ids_splitByStyling_perm_append graph groups).mem_iff, List.mem_append,
    mem_ids_pooledGroups]
  constructor
  · rintro (kept | pooled)
    · obtain ⟨group, among, found, _⟩ := mem_ids_keptGroups.mp kept
      exact List.mem_flatMap.mpr ⟨group, among, found⟩
    · exact pooled.1
  · intro found
    by_cases kept : id ∈ (keptGroups graph groups).flatMap Group.ids
    · exact Or.inl kept
    · exact Or.inr ⟨found, kept⟩

/-- A component in a pool is nowhere else. -/
theorem count_ids_splitByStyling {mode : Encapsulation} {id : ComponentId}
    (found : id ∈ Group.ids (overflowPool graph groups mode)) :
    ((splitByStyling graph groups).flatMap Group.ids).count id = 1 := by
  obtain ⟨inside, _, apart⟩ := mem_ids_overflowPool.mp found
  rw [(ids_splitByStyling_perm_append graph groups).count_eq,
    List.count_append, List.count_eq_zero_of_not_mem apart,
    List.count_eq_one_of_mem (nodup_ids_pooledGroups graph groups)
      (mem_ids_pooledGroups.mpr ⟨inside, apart⟩)]

/-- After splitting, groups stand in the order of their smallest members and
then of their sizes. -/
theorem splitByStyling_pairwise (graph : Graph) (groups : List Group) :
    (splitByStyling graph groups).Pairwise fun one other =>
      ∃ first second, Group.smallest? one = some first ∧
        Group.smallest? other = some second ∧
          (first < second ∨ first = second ∧ one.length ≤ other.length) := by
  have ordered : (splitByStyling graph groups).Pairwise fun one other =>
      Group.precedes one other = true := sortGroups_pairwise _
  refine ordered.imp_of_mem fun {one other} among among' before => ?_
  obtain ⟨first, least, _⟩ :=
    Group.exists_smallest (unmixed_of_mem_splitByStyling among).1
  obtain ⟨second, least', _⟩ :=
    Group.exists_smallest (unmixed_of_mem_splitByStyling among').1
  exact ⟨first, second, least, least',
    (Group.precedes_iff least least').mp before⟩

theorem stylingParts (graph : Graph) (groups : List Group) :
    StylingParts graph groups (keptGroups graph groups)
      (overflowPool graph groups) (splitByStyling graph groups) where
  keeps := forall₂_keptGroups graph groups
  pools := pools_overflowPool graph groups
  parts := by
    rw [splitByStyling_eq_sortGroups]
    exact sortGroups_perm _
  ordered := splitByStyling_pairwise graph groups
  unmixed _ := unmixed_of_mem_splitByStyling
  mem_ids _ := mem_ids_splitByStyling
  once _ _ := count_ids_splitByStyling

/-! ### Groups without common components -/

/-- A component is kept exactly if it has the encapsulation that its group
keeps. -/
theorem mem_ids_keptGroups_of_nodup
    (distinct : (groups.flatMap Group.ids).Nodup) {group : Group}
    (among : group ∈ groups) {id : ComponentId} (found : id ∈ Group.ids group) :
    id ∈ (keptGroups graph groups).flatMap Group.ids ↔
      graph.encapsulation id = majority graph group := by
  rw [mem_ids_keptGroups]
  constructor
  · rintro ⟨other, among', found', own⟩
    rwa [Group.eq_of_mem_ids distinct among among' found found']
  · exact fun own => ⟨group, among, found, own⟩

/-- Where no component is in two groups, a pool holds each member that was not
kept, with its dependents in order. -/
theorem Pools.mem_iff {kept : List Group} {mode : Encapsulation} {pool : Group}
    (pools : Pools graph groups kept mode pool)
    (distinct : (groups.flatMap Group.ids).Nodup) {member : Member} :
    member ∈ pool ↔
      ∃ old ∈ groups.flatten, graph.encapsulation old.id = mode ∧
        old.id ∉ kept.flatMap Group.ids ∧
        { old with dependents := ascending old.dependents } = member := by
  rw [← ids_flatten] at distinct
  constructor
  · intro found
    obtain ⟨_, own, apart⟩ := (pools.mem_ids member.id).mp
      (Group.mem_ids_iff.mpr ⟨member, found, rfl⟩)
    obtain ⟨old, among, rfl⟩ := pools.dependents member found
    exact ⟨old, among, own, apart, rfl⟩
  · rintro ⟨old, among, own, apart, rfl⟩
    have inside : old.id ∈ groups.flatMap Group.ids := by
      rw [← ids_flatten]
      exact Group.mem_ids_iff.mpr ⟨old, among, rfl⟩
    obtain ⟨member, found, same⟩ := Group.mem_ids_iff.mp
      ((pools.mem_ids old.id).mpr ⟨inside, own, apart⟩)
    obtain ⟨other, among', rfl⟩ := pools.dependents member found
    rwa [← List.inj_on_of_nodup_map distinct among' among same]

/-- Where no component is in two groups, splitting does not part members of one
group that have one encapsulation. -/
theorem mem_ids_of_mem_splitByStyling
    (distinct : (groups.flatMap Group.ids).Nodup) {group home : Group}
    (among : group ∈ groups) {one other : ComponentId}
    (found : one ∈ Group.ids group) (found' : other ∈ Group.ids group)
    (same : graph.encapsulation one = graph.encapsulation other)
    (home_among : home ∈ splitByStyling graph groups)
    (inside : one ∈ Group.ids home) : other ∈ Group.ids home := by
  rcases mem_splitByStyling.mp home_among with kept | pooled
  · obtain ⟨old, old_among, rfl⟩ := List.mem_map.mp kept
    obtain ⟨old_found, own⟩ := mem_ids_membersWith.mp inside
    have whole : old = group := Group.eq_of_mem_ids distinct
      (List.mem_filter.mp old_among).1 among old_found found
    rw [same] at own
    exact mem_ids_membersWith.mpr ⟨whole ▸ found', own⟩
  · obtain ⟨mode, _, rfl⟩ := List.mem_map.mp (List.mem_filter.mp pooled).1
    obtain ⟨_, own, apart⟩ := mem_ids_overflowPool.mp inside
    rw [mem_ids_keptGroups_of_nodup distinct among found, same,
      ← mem_ids_keptGroups_of_nodup distinct among found'] at apart
    exact mem_ids_overflowPool.mpr
      ⟨List.mem_flatMap.mpr ⟨group, among, found'⟩, same ▸ own, apart⟩

theorem stylingParts_apart (distinct : (groups.flatMap Group.ids).Nodup) :
    StylingParts.Apart graph groups (keptGroups graph groups)
      (overflowPool graph groups) (splitByStyling graph groups) where
  mem_pool mode _ := (pools_overflowPool graph groups mode).mem_iff distinct
  ordered := splitByStyling_smallest_lt graph distinct
  together _ among _ found _ found' same _ home_among :=
    ⟨mem_ids_of_mem_splitByStyling distinct among found found' same home_among,
      mem_ids_of_mem_splitByStyling distinct among found' found same.symm
        home_among⟩
  distinct := (ids_splitByStyling_perm graph distinct).symm.nodup distinct

/-- Any groups are split into what each of them keeps and one pool for each
encapsulation of what none of them keeps, in order; where no component is in two
groups, this says which members every group has. -/
theorem splitByStyling_parts (graph : Graph) (groups : List Group) :
    ∃ kept pool,
      StylingParts graph groups kept pool (splitByStyling graph groups) ∧
      ((groups.flatMap Group.ids).Nodup →
        StylingParts.Apart graph groups kept pool
          (splitByStyling graph groups)) :=
  ⟨_, _, stylingParts graph groups, stylingParts_apart⟩

/-- Components of a dashboard, in the order of their tags, which style
themselves in all three ways. -/
def dashboardComponents : List Component :=
  [{ tag := "dash-axis", source := ⟨"axis.js"⟩ },
   { tag := "dash-badge", source := ⟨"badge.js"⟩, encapsulation := .shadow },
   { tag := "dash-chart", source := ⟨"chart.js"⟩ },
   { tag := "dash-frame", source := ⟨"frame.js"⟩, encapsulation := .scoped },
   { tag := "dash-page", source := ⟨"page.js"⟩, encapsulation := .shadow }]

/-- The graph of the dashboard. -/
def dashboardGraph : Graph :=
  Graph.link dashboardComponents [] []

/-- Groups of the dashboard, none of which has one encapsulation: most of the
first have a shadow root, and no encapsulation is more frequent than the other in
the second. -/
def dashboardGroups : List Group :=
  [[{ id := 4 }, { id := 0, dependents := [4, 1] },
      { id := 1, dependents := [4] }],
    [], [{ id := 3, dependents := [4, 2, 4] }, { id := 2 }]]

/-- The dashboard keeps its page with the badge, and the chart; the axis and the
frame get groups of their own. -/
theorem splitByStyling_parts_dashboard :
    (dashboardGroups.flatMap Group.ids).Nodup ∧
    ∃ split, splitByStyling dashboardGraph dashboardGroups = split ∧
      split = [[{ id := 0, dependents := [1, 4] }],
        [{ id := 4 }, { id := 1, dependents := [4] }], [{ id := 2 }],
        [{ id := 3, dependents := [2, 4] }]] ∧
      ∃ kept pool,
        StylingParts dashboardGraph dashboardGroups kept pool split ∧
        StylingParts.Apart dashboardGraph dashboardGroups kept pool split := by
  have distinct : (dashboardGroups.flatMap Group.ids).Nodup := by decide
  obtain ⟨kept, pool, parts, apart⟩ :=
    splitByStyling_parts dashboardGraph dashboardGroups
  refine ⟨distinct, _, rfl, ?_, kept, pool, parts, apart distinct⟩
  cbv

end CodeSplit
