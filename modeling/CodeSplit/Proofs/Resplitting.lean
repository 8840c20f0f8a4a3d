/-
Module: CodeSplit.Proofs.Resplitting
Purpose: splitting groups by encapsulation again changes nothing, and the order
  in which groups without common components are given does not matter.
Main exports:
  keptGroups_eq_self, splitByStyling_eq_self, overflowPool_eq_of_perm,
  splitByStyling_idempotent_perm
-/
import CodeSplit.Proofs.StylingParts

namespace CodeSplit

variable {graph : Graph} {groups : List Group}

/-! ### Groups that are split already -/

/-- A group with one encapsulation keeps all its members. -/
theorem membersWith_majority_eq_self {group : Group} {mode : Encapsulation}
    (one_mode : ∀ id ∈ Group.ids group, graph.encapsulation id = mode) :
    membersWith graph (majority graph group) group = group := by
  have whole : membersWith graph mode group = group := by
    rw [membersWith, List.filter_eq_self]
    intro member found
    rw [decide_eq_true_eq]
    exact one_mode member.id (Group.mem_ids_iff.mpr ⟨member, found, rfl⟩)
  have bound := length_membersWith_le_majority graph mode group
  rw [whole] at bound
  exact List.filter_sublist.eq_of_length_le bound

/-- Groups with members and one encapsulation each are kept as they are. -/
theorem keptGroups_eq_self (unmixed : ∀ group ∈ groups, Unmixed graph group) :
    keptGroups graph groups = groups := by
  have all : groups.filter (!·.isEmpty) = groups := by
    rw [List.filter_eq_self]
    intro group among
    simpa using (unmixed group among).1
  have unchanged : groups.map (fun group =>
      membersWith graph (majority graph group) group) = groups.map id := by
    refine List.map_congr_left fun group among => ?_
    obtain ⟨_, mode, own⟩ := unmixed group among
    exact membersWith_majority_eq_self own
  rw [keptGroups, all, unchanged, List.map_id]

/-- Where all is kept, there are no pools. -/
theorem pooledGroups_eq_nil (kept : keptGroups graph groups = groups) :
    pooledGroups graph groups = [] := by
  rw [pooledGroups, List.filter_eq_nil_iff]
  intro pool mapped
  obtain ⟨mode, _, rfl⟩ := List.mem_map.mp mapped
  cases members : overflowPool graph groups mode with
  | nil => simp
  | cons member rest =>
      have found : member.id ∈ Group.ids (overflowPool graph groups mode) := by
        simp [members]
      obtain ⟨inside, _, apart⟩ := mem_ids_overflowPool.mp found
      rw [kept] at apart
      exact absurd inside apart

/-- Groups in order that have members and one encapsulation each are not split
any further. -/
theorem splitByStyling_eq_self (unmixed : ∀ group ∈ groups, Unmixed graph group)
    (ordered : groups.Pairwise fun one other =>
      Group.precedes one other = true) :
    splitByStyling graph groups = groups := by
  have kept := keptGroups_eq_self unmixed
  rw [splitByStyling_eq_sortGroups, pooledGroups_eq_nil kept,
    kept, List.append_nil, sortGroups, List.mergeSort_of_pairwise ordered]

/-! ### Groups in another order -/

/-- Two pools of the same members are the same. -/
theorem Pools.eq_of_mem_iff {kept groups' kept' : List Group}
    {mode : Encapsulation} {pool pool' : Group}
    (pools : Pools graph groups kept mode pool)
    (pools' : Pools graph groups' kept' mode pool')
    (same : ∀ member, member ∈ pool ↔ member ∈ pool') : pool = pool' := by
  have ordered := List.pairwise_map.mp pools.ascends
  have ordered' := List.pairwise_map.mp pools'.ascends
  have distinct : pool.Nodup := .of_map _ (pools.ascends.imp ne_of_lt)
  have distinct' : pool'.Nodup := .of_map _ (pools'.ascends.imp ne_of_lt)
  exact List.Perm.eq_of_pairwise
    (fun _ _ _ _ below above => absurd above (Nat.lt_asymm below))
    ordered ordered' ((List.perm_ext_iff_of_nodup distinct distinct').mpr same)

/-- What is pooled does not depend on the order of groups without common
components. -/
theorem overflowPool_eq_of_perm {permuted : List Group}
    (perm : permuted.Perm groups)
    (distinct : (groups.flatMap Group.ids).Nodup) (mode : Encapsulation) :
    overflowPool graph permuted mode = overflowPool graph groups mode := by
  have distinct' : (permuted.flatMap Group.ids).Nodup :=
    (perm.flatMap_right _).symm.nodup distinct
  have kept : (keptGroups graph permuted).Perm (keptGroups graph groups) :=
    (perm.filter _).map _
  have pools := pools_overflowPool graph groups mode
  have pools' := pools_overflowPool graph permuted mode
  apply pools'.eq_of_mem_iff pools
  intro member
  rw [pools.mem_iff distinct, pools'.mem_iff distinct']
  simp only [(perm.flatten).mem_iff, (kept.flatMap_right Group.ids).mem_iff]

theorem splitByStyling_perm {permuted : List Group}
    (perm : permuted.Perm groups)
    (distinct : (groups.flatMap Group.ids).Nodup) :
    (splitByStyling graph permuted).Perm (splitByStyling graph groups) := by
  have pools : pooledGroups graph permuted = pooledGroups graph groups := by
    rw [pooledGroups, funext (overflowPool_eq_of_perm perm distinct),
      pooledGroups]
  rw [splitByStyling_eq_sortGroups, splitByStyling_eq_sortGroups, pools]
  apply (sortGroups_perm _).trans
  apply List.Perm.trans _ (sortGroups_perm _).symm
  exact ((perm.filter _).map _).append_right _

/-- The order of groups without common components does not matter to
splitting. -/
theorem splitByStyling_eq_of_perm {permuted : List Group}
    (perm : permuted.Perm groups)
    (distinct : (groups.flatMap Group.ids).Nodup) :
    splitByStyling graph permuted = splitByStyling graph groups := by
  have distinct' : (permuted.flatMap Group.ids).Nodup :=
    (perm.flatMap_right _).symm.nodup distinct
  refine List.Perm.eq_of_pairwise ?_
    (splitByStyling_smallest_lt graph distinct')
    (splitByStyling_smallest_lt graph distinct)
    (splitByStyling_perm perm distinct)
  rintro one other _ _ ⟨first, second, least, least', below⟩
    ⟨_, _, again', again, above⟩
  rw [least] at again
  rw [least'] at again'
  cases again
  cases again'
  exact absurd above (Nat.lt_asymm below)

/-! ### Splitting again, and in any order -/

/-- Splitting groups that are split already gives them back as they are, also
where components are in several of the groups; and groups without common
components are split into the same groups in whatever order they are given. -/
theorem splitByStyling_idempotent_perm (graph : Graph) (groups : List Group) :
    splitByStyling graph (splitByStyling graph groups) =
        splitByStyling graph groups ∧
      ((groups.flatMap Group.ids).Nodup → ∀ permuted, permuted.Perm groups →
        splitByStyling graph permuted = splitByStyling graph groups) := by
  constructor
  · apply splitByStyling_eq_self
    · intro group among
      exact unmixed_of_mem_splitByStyling among
    · exact sortGroups_pairwise _
  · intro distinct permuted perm
    exact splitByStyling_eq_of_perm perm distinct

/-- The groups of the dashboard, last first, are split as they are in their
order, and what they are split into is not split again. -/
theorem splitByStyling_idempotent_perm_dashboard :
    (dashboardGroups.flatMap Group.ids).Nodup ∧
    dashboardGroups.reverse.Perm dashboardGroups ∧
    ∃ split, split = [[{ id := 0, dependents := [1, 4] }],
        [{ id := 4 }, { id := 1, dependents := [4] }], [{ id := 2 }],
        [{ id := 3, dependents := [2, 4] }]] ∧
      splitByStyling dashboardGraph dashboardGroups.reverse = split ∧
      splitByStyling dashboardGraph split = split := by
  have distinct : (dashboardGroups.flatMap Group.ids).Nodup := by decide
  have reversed : dashboardGroups.reverse.Perm dashboardGroups :=
    List.reverse_perm _
  obtain ⟨again, any_order⟩ :=
    splitByStyling_idempotent_perm dashboardGraph dashboardGroups
  refine ⟨distinct, reversed, splitByStyling dashboardGraph dashboardGroups, ?_,
    any_order distinct _ reversed, again⟩
  cbv

end CodeSplit
