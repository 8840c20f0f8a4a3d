/-
Module: CodeSplit.Proofs.Styling
Purpose: splitting groups by encapsulation moves components, but neither loses
  nor repeats any.
Main exports:
  membersWith_perm, majority_ne_nil, overflowPool, splitByStyling_eq_sortGroups,
  ids_splitByStyling_perm, splitByStyling_smallest_lt,
  exists_of_mem_splitByStyling
-/
import CodeSplit.Group.Styling
import CodeSplit.Proofs.GroupOrder
import Mathlib.Data.List.Perm.Lattice

namespace CodeSplit

variable {graph : Graph} {groups : List Group}

/-! ### One group -/

theorem count_membersWith (mode : Encapsulation) (group : Group)
    (member : Member) :
    (membersWith graph mode group).count member =
      if graph.encapsulation member.id = mode then group.count member
      else 0 := by
  split
  · rename_i same
    exact List.count_filter (by simpa using same)
  · rename_i other
    refine List.count_eq_zero_of_not_mem fun found => other ?_
    simpa using (List.mem_filter.mp found).2

/-- What a group keeps and what it sheds with each of the other encapsulations
make up the group. -/
theorem membersWith_perm (graph : Graph) (kept : Encapsulation)
    (group : Group) :
    (membersWith graph kept group ++
      Encapsulation.all.flatMap fun mode =>
        if kept = mode then [] else membersWith graph mode group).Perm
      group := by
  rw [List.perm_iff_count]
  intro member
  cases kept <;> cases mode : graph.encapsulation member.id <;>
    simp [Encapsulation.all, count_membersWith, mode]

/-- No encapsulation has more members than the one that a group keeps. -/
theorem length_membersWith_le_majority (graph : Graph)
    (mode : Encapsulation) (group : Group) :
    (membersWith graph mode group).length ≤
      (membersWith graph (majority graph group) group).length := by
  unfold majority
  simp only [Encapsulation.all, List.foldl_cons, List.foldl_nil]
  cases mode <;> split_ifs <;> omega

/-- A group with members keeps some. -/
theorem majority_ne_nil {group : Group} (some_member : group ≠ []) :
    membersWith graph (majority graph group) group ≠ [] := by
  intro none
  obtain ⟨member, found⟩ := List.exists_mem_of_ne_nil group some_member
  have bound := length_membersWith_le_majority graph
    (graph.encapsulation member.id) group
  rw [none, List.length_nil, Nat.le_zero, List.length_eq_zero_iff] at bound
  have own : member ∈
      membersWith graph (graph.encapsulation member.id) group :=
    List.mem_filter.mpr ⟨found, by simp⟩
  simp [bound] at own

theorem mem_membersWith {mode : Encapsulation} {group : Group}
    {member : Member} :
    member ∈ membersWith graph mode group ↔
      member ∈ group ∧ graph.encapsulation member.id = mode := by
  rw [membersWith, List.mem_filter, decide_eq_true_eq]

theorem mem_ids_membersWith {mode : Encapsulation} {group : Group}
    {id : ComponentId} :
    id ∈ Group.ids (membersWith graph mode group) ↔
      id ∈ Group.ids group ∧ graph.encapsulation id = mode := by
  simp only [Group.mem_ids_iff, mem_membersWith]
  constructor
  · rintro ⟨member, ⟨found, own⟩, rfl⟩
    exact ⟨⟨member, found, rfl⟩, own⟩
  · rintro ⟨⟨member, found, rfl⟩, own⟩
    exact ⟨member, ⟨found, own⟩, rfl⟩

/-! ### All groups -/

theorem flatten_keptGroups_cons (group : Group) :
    (keptGroups graph (group :: groups)).flatten =
      membersWith graph (majority graph group) group ++
        (keptGroups graph groups).flatten := by
  cases group <;> simp [keptGroups, membersWith]

theorem shedWith_cons (mode : Encapsulation) (group : Group) :
    shedWith graph mode (group :: groups) =
      (if majority graph group = mode then []
        else membersWith graph mode group) ++ shedWith graph mode groups := by
  simp [shedWith]

/-- What groups keep and what they shed make up the groups. -/
theorem kept_shed_perm (graph : Graph) (groups : List Group) :
    ((keptGroups graph groups).flatten ++
      Encapsulation.all.flatMap fun mode => shedWith graph mode groups).Perm
      groups.flatten := by
  induction groups with
  | nil => simp [keptGroups, shedWith, Encapsulation.all]
  | cons group groups ih =>
      simp only [flatten_keptGroups_cons, shedWith_cons, List.flatten_cons]
      have split := List.flatMap_append_perm Encapsulation.all
        (fun mode => if majority graph group = mode then []
          else membersWith graph mode group)
        fun mode => shedWith graph mode groups
      apply (split.symm.append_left _).trans
      refine List.Perm.trans ?_
        ((membersWith_perm graph (majority graph group) group).append ih)
      simp only [List.append_assoc]
      apply List.Perm.append_left _
      simp only [← List.append_assoc]
      exact List.perm_append_comm.append_right _

theorem ids_flatten (groups : List Group) :
    Group.ids groups.flatten = groups.flatMap Group.ids := by
  rw [Group.ids, List.map_flatten, List.flatMap_def]
  rfl

/-- The members that groups shed. -/
theorem mem_shedWith {mode : Encapsulation} {member : Member} :
    member ∈ shedWith graph mode groups ↔
      ∃ group ∈ groups, member ∈ group ∧
        graph.encapsulation member.id = mode ∧ majority graph group ≠ mode := by
  simp only [shedWith, List.mem_flatMap]
  refine exists_congr fun group => and_congr_right fun _ => ?_
  split
  · rename_i same
    simp [same]
  · rename_i other
    simp [mem_membersWith, other]

theorem encapsulation_of_mem_shedWith {mode : Encapsulation} {id : ComponentId}
    (found : id ∈ Group.ids (shedWith graph mode groups)) :
    graph.encapsulation id = mode := by
  obtain ⟨member, shed, rfl⟩ := Group.mem_ids_iff.mp found
  obtain ⟨_, _, _, own, _⟩ := mem_shedWith.mp shed
  exact own

/-! ### First occurrences -/

theorem firstOccurrences_sublist (placed : List ComponentId) (pool : Group) :
    (firstOccurrences placed pool).Sublist pool := by
  induction pool generalizing placed with
  | nil => exact List.Sublist.slnil
  | cons member rest ih =>
      rw [firstOccurrences]
      split
      · exact (ih placed).cons member
      · exact (ih _).cons_cons member

/-- The components that are first met in the pool. -/
theorem mem_ids_firstOccurrences {placed : List ComponentId} {pool : Group}
    {id : ComponentId} :
    id ∈ Group.ids (firstOccurrences placed pool) ↔
      id ∈ Group.ids pool ∧ id ∉ placed := by
  induction pool generalizing placed with
  | nil => simp [firstOccurrences]
  | cons member rest ih =>
      rw [firstOccurrences]
      by_cases seen : member.id ∈ placed
      · rw [if_pos seen, ih, Group.ids_cons, List.mem_cons]
        constructor
        · rintro ⟨found, apart⟩
          exact ⟨Or.inr found, apart⟩
        · rintro ⟨rfl | found, apart⟩
          · exact absurd seen apart
          · exact ⟨found, apart⟩
      · rw [if_neg seen, Group.ids_cons, Group.ids_cons, List.mem_cons, ih,
          List.mem_cons, List.mem_cons]
        by_cases same : id = member.id
        · simp [same, seen]
        · simp [same]

theorem nodup_ids_firstOccurrences (placed : List ComponentId)
    (pool : Group) : (Group.ids (firstOccurrences placed pool)).Nodup := by
  induction pool generalizing placed with
  | nil => exact List.nodup_nil
  | cons member rest ih =>
      rw [firstOccurrences]
      split
      · exact ih placed
      · rw [Group.ids_cons, List.nodup_cons]
        refine ⟨fun again => ?_, ih _⟩
        exact (mem_ids_firstOccurrences.mp again).2 List.mem_cons_self

/-- Only which of its components are placed matters to a pool. -/
theorem firstOccurrences_congr {placed placed' : List ComponentId}
    {pool : Group}
    (same : ∀ id ∈ Group.ids pool, id ∈ placed ↔ id ∈ placed') :
    firstOccurrences placed pool = firstOccurrences placed' pool := by
  induction pool generalizing placed placed' with
  | nil => rfl
  | cons member rest ih =>
      rw [Group.ids_cons] at same
      obtain ⟨here, others⟩ := List.forall_mem_cons.mp same
      have joined : ∀ id ∈ Group.ids rest,
          id ∈ member.id :: placed ↔ id ∈ member.id :: placed' := by
        intro id found
        rw [List.mem_cons, List.mem_cons, others id found]
      simp only [firstOccurrences, here]
      rw [ih others, ih joined]

/-- Members without repetitions that are not placed are kept as they are. -/
theorem firstOccurrences_eq_self {placed : List ComponentId} {pool : Group}
    (distinct : (placed ++ Group.ids pool).Nodup) :
    firstOccurrences placed pool = pool := by
  induction pool generalizing placed with
  | nil => rfl
  | cons member rest ih =>
      rw [Group.ids_cons] at distinct
      have moved := List.perm_middle.nodup distinct
      have fresh := (List.nodup_cons.mp moved).1
      rw [firstOccurrences,
        if_neg fun found => fresh (List.mem_append_left _ found), ih moved]

/-! ### Pools -/

/-- What no group keeps of an encapsulation, as splitting pools it. -/
def overflowPool (graph : Graph) (groups : List Group) (mode : Encapsulation) :
    Group :=
  Group.sorted (firstOccurrences
    ((keptGroups graph groups).flatMap Group.ids) (shedWith graph mode groups))

/-- What is placed for one encapsulation does not matter to the others, so each
pool can be said by itself. -/
theorem overflowGroups_eq_map {placed : List ComponentId}
    {modes : List Encapsulation} (distinct : modes.Nodup) :
    overflowGroups graph groups placed modes =
      (modes.map fun mode => Group.sorted
        (firstOccurrences placed (shedWith graph mode groups))).filter
          (!·.isEmpty) := by
  induction modes generalizing placed with
  | nil => rfl
  | cons mode modes ih =>
      obtain ⟨fresh, distinct⟩ := List.nodup_cons.mp distinct
      -- What was pooled before has another encapsulation.
      have others : (modes.map fun other => Group.sorted
          (firstOccurrences
            (Group.ids (firstOccurrences placed (shedWith graph mode groups)) ++
              placed) (shedWith graph other groups))) =
          modes.map fun other => Group.sorted
            (firstOccurrences placed (shedWith graph other groups)) := by
        refine List.map_congr_left fun other among => ?_
        rw [firstOccurrences_congr]
        intro id found
        rw [List.mem_append, or_iff_right]
        intro pooled
        have own := encapsulation_of_mem_shedWith found
        have own' := encapsulation_of_mem_shedWith
          (mem_ids_firstOccurrences.mp pooled).1
        exact fresh (own'.symm.trans own ▸ among)
      rw [overflowGroups, ih distinct, others, List.map_cons,
        List.filter_cons]
      cases firstOccurrences placed (shedWith graph mode groups) with
      | nil => simp [Group.isEmpty_sorted]
      | cons member rest => simp [Group.isEmpty_sorted]

/-- The pools with members. -/
def pooledGroups (graph : Graph) (groups : List Group) : List Group :=
  (Encapsulation.all.map (overflowPool graph groups)).filter (!·.isEmpty)

/-- Splitting gives what the groups keep and the pools with members. -/
theorem splitByStyling_eq_sortGroups (graph : Graph) (groups : List Group) :
    splitByStyling graph groups =
      sortGroups (keptGroups graph groups ++ pooledGroups graph groups) := by
  rw [splitByStyling, overflowGroups_eq_map (by decide)]
  rfl

theorem mem_splitByStyling {group : Group} :
    group ∈ splitByStyling graph groups ↔
      group ∈ keptGroups graph groups ∨ group ∈ pooledGroups graph groups := by
  rw [splitByStyling_eq_sortGroups, mem_sortGroups, List.mem_append]

/-! ### Groups without common components -/

/-- The groups of what was shed, each with one encapsulation. -/
def pools (graph : Graph) (groups : List Group) : List Group :=
  (Encapsulation.all.map fun mode => shedWith graph mode groups).filter
    (!·.isEmpty)

theorem flatten_pools (graph : Graph) (groups : List Group) :
    (pools graph groups).flatten =
      Encapsulation.all.flatMap fun mode => shedWith graph mode groups := by
  rw [pools, List.flatten_filter_not_isEmpty, List.flatMap_def]

/-- Where no component is in two groups, the pools are all that was shed. -/
theorem pooledGroups_eq (distinct : (groups.flatMap Group.ids).Nodup) :
    pooledGroups graph groups = (pools graph groups).map Group.sorted := by
  have all := (kept_shed_perm graph groups).map Member.id
  have whole : (groups.flatten.map Member.id).Nodup := by
    rw [← Group.ids, ids_flatten]
    exact distinct
  have apart := all.symm.nodup whole
  rw [List.map_append, ← Group.ids, ids_flatten, List.map_flatMap] at apart
  have unplaced (mode : Encapsulation) :
      overflowPool graph groups mode =
        Group.sorted (shedWith graph mode groups) := by
    rw [overflowPool, firstOccurrences_eq_self]
    refine List.Nodup.sublist (List.Sublist.append_left ?_ _) apart
    exact List.sublist_flatten_of_mem
      (List.mem_map_of_mem (Encapsulation.mem_all mode))
  rw [pooledGroups, funext unplaced, pools, List.filter_map, List.filter_map,
    List.map_map]
  simp only [Function.comp_def, Group.isEmpty_sorted]

/-- Where no component is in two groups, splitting gives what the groups keep
and the pools of what they shed. -/
theorem splitByStyling_eq (graph : Graph)
    (distinct : (groups.flatMap Group.ids).Nodup) :
    splitByStyling graph groups =
      sortGroups (keptGroups graph groups ++
        (pools graph groups).map Group.sorted) := by
  rw [splitByStyling_eq_sortGroups, pooledGroups_eq distinct]

/-- Splitting keeps which components are in groups. -/
theorem ids_splitByStyling_perm (graph : Graph)
    (distinct : (groups.flatMap Group.ids).Nodup) :
    ((splitByStyling graph groups).flatMap Group.ids).Perm
      (groups.flatMap Group.ids) := by
  rw [splitByStyling_eq graph distinct]
  apply (ids_sortGroups_perm _).trans
  rw [List.flatMap_append, List.flatMap_map, ← ids_flatten]
  have sorted : ((pools graph groups).flatMap
      fun group => Group.ids (Group.sorted group)).Perm
      (Group.ids (pools graph groups).flatten) := by
    rw [ids_flatten]
    exact List.Perm.flatMap_left _ fun group _ => Group.ids_sorted_perm group
  apply (sorted.append_left _).trans
  rw [flatten_pools, ← Group.ids_append, ← ids_flatten]
  exact (kept_shed_perm graph groups).map Member.id

/-- Splitting makes no empty group. -/
theorem nil_not_mem_splitByStyling (graph : Graph)
    (distinct : (groups.flatMap Group.ids).Nodup) :
    [] ∉ splitByStyling graph groups := by
  rw [splitByStyling_eq graph distinct, mem_sortGroups, List.mem_append,
    List.mem_map]
  intro given
  rcases given with empty | ⟨pool, among, empty⟩
  · obtain ⟨group, among, none⟩ := List.mem_map.mp empty
    have some_member : group ≠ [] := by
      simpa using (List.mem_filter.mp among).2
    exact majority_ne_nil some_member none
  · rw [Group.sorted_eq_nil_iff] at empty
    simpa [empty] using (List.mem_filter.mp among).2

/-- The groups after splitting stand in the strict order of their smallest
members. -/
theorem splitByStyling_smallest_lt (graph : Graph)
    (distinct : (groups.flatMap Group.ids).Nodup) :
    (splitByStyling graph groups).Pairwise fun one other =>
      ∃ first second, Group.smallest? one = some first ∧
        Group.smallest? other = some second ∧ first < second := by
  have none_empty := nil_not_mem_splitByStyling graph distinct
  have distinct' :=
    (ids_splitByStyling_perm graph distinct).symm.nodup distinct
  rw [splitByStyling_eq graph distinct] at *
  apply sortGroups_smallest_lt (mt mem_sortGroups.mpr none_empty)
  exact (ids_sortGroups_perm _).nodup distinct'

/-- Every member after splitting was a member before, there because of at least
the same components. -/
theorem exists_of_mem_splitByStyling
    (distinct : (groups.flatMap Group.ids).Nodup) {group : Group}
    (among : group ∈ splitByStyling graph groups) {member : Member}
    (found : member ∈ group) :
    ∃ old ∈ groups, ∃ own ∈ old, own.id = member.id ∧
      ∀ other ∈ member.dependents, other ∈ own.dependents := by
  have before {own : Member}
      (inside : own ∈ (keptGroups graph groups).flatten ++
        (pools graph groups).flatten) : ∃ old ∈ groups, own ∈ old := by
    rw [flatten_pools, (kept_shed_perm graph groups).mem_iff] at inside
    exact List.mem_flatten.mp inside
  rw [splitByStyling_eq graph distinct, mem_sortGroups, List.mem_append,
    List.mem_map] at among
  rcases among with kept | ⟨pool, pooled, rfl⟩
  · obtain ⟨old, old_among, own_found⟩ := before
      (List.mem_append_left _ (List.mem_flatten.mpr ⟨group, kept, found⟩))
    exact ⟨old, old_among, member, own_found, rfl, fun _ => id⟩
  · obtain ⟨own, inside, rfl⟩ := Group.mem_sorted.mp found
    obtain ⟨old, old_among, own_found⟩ := before
      (List.mem_append_right _ (List.mem_flatten.mpr ⟨pool, pooled, inside⟩))
    exact ⟨old, old_among, own, own_found, rfl, fun _ => mem_ascending.mp⟩

end CodeSplit
