/-
Module: CodeSplit.Proofs.TierPriority
Purpose: every tier keeps what it claims: bundles before the root document, and
  both before the rest of the application.
Main exports:
  TieredGroups, planGroups_tiered
-/
import CodeSplit.Proofs.Linking
import CodeSplit.Proofs.Tiers
import Mathlib

namespace CodeSplit

/-! ### Groups that hold what was claimed -/

namespace Group

/-- Sorting a group leaves what it holds. -/
theorem Holds.sorted {group : Group} {claimed : ComponentId → Prop}
    (holds : Group.Holds group claimed) :
    Group.Holds (Group.sorted group) claimed := by
  intro member
  rw [mem_sorted, ← holds member]
  have unchanged {old : Member} (found : old ∈ group) :
      { old with dependents := ascending old.dependents } = old := by
    have none := ((holds old).mp found).1
    cases old with
    | mk id dependents =>
        subst none
        rfl
  constructor
  · intro given
    obtain ⟨old, found, rfl⟩ := given
    rwa [unchanged found]
  · intro found
    exact ⟨member, found, unchanged found⟩

/-- A group that holds what is claimed is the only one that does, if anything is
claimed. -/
theorem existsUnique_holds {groups : List Group}
    (distinct : (groups.flatMap ids).Nodup) {claimed : ComponentId → Prop}
    (some_claim : ∃ id, claimed id)
    (exists_group : ∃ group ∈ groups, Group.Holds group claimed) :
    ∃! group, group ∈ groups ∧ Group.Holds group claimed := by
  obtain ⟨id, claims⟩ := some_claim
  obtain ⟨group, among, holds⟩ := exists_group
  refine ⟨group, ⟨among, holds⟩, ?_⟩
  intro other given
  obtain ⟨among', holds'⟩ := given
  exact eq_of_mem_ids distinct among' among (holds'.mem_ids_iff.mpr claims)
    (holds.mem_ids_iff.mpr claims)

end Group

/-! ### The groups of all tiers -/

/-- Groups are exactly those of the three tiers: one for each bundle that claims
anything, one for what the root document claims, if that is anything, and others
that hold nothing that is claimed. -/
structure TieredGroups (graph : Graph) (bundles : List (List String))
    (groups : List Group) : Prop where
  distinct : (groups.flatMap Group.ids).Nodup
  none_empty : [] ∉ groups
  bundle_group : ∀ index, (∃ id, graph.ClaimedBy bundles index id) →
    ∃! group, group ∈ groups ∧
      Group.Holds group (graph.ClaimedBy bundles index)
  document_group : (∃ id, graph.Documented bundles id) →
    ∃! group, group ∈ groups ∧ Group.Holds group (graph.Documented bundles)
  exhaustive : ∀ group ∈ groups,
    (∃ index, Group.Holds group (graph.ClaimedBy bundles index)) ∨
    Group.Holds group (graph.Documented bundles) ∨
    ∀ id ∈ Group.ids group, ¬ graph.Claimed bundles id

namespace TierRun

variable {graph : Graph} {bundles : List (List String)} {walks : Walks}

/-- What the root document claims has one group. -/
theorem exists_holds_documented (run : TierRun graph bundles walks)
    (some_claim : ∃ id, graph.Documented bundles id) :
    ∃ group ∈ run.documented.groups,
      Group.Holds group (graph.Documented bundles) := by
  obtain ⟨id, claims⟩ := some_claim
  have found := (run.mem_claimed id).mpr claims
  refine ⟨Group.ofIds run.claimed, ?_, run.holds_claimed⟩
  rw [run.document_groups]
  exact List.mem_append_right _
    (Group.mem_started.mpr ⟨List.ne_nil_of_mem found, rfl⟩)

/-- A group that the last tier made holds nothing that is claimed: whatever is
claimed is in a group in front of it. -/
theorem not_claimed_of_behind (run : TierRun graph bundles walks)
    {rest : List Group}
    (groups : run.documented.groups ++ rest = run.shared.groups)
    {group : Group} (behind : group ∈ rest) :
    ∀ id ∈ Group.ids group, ¬ graph.Claimed bundles id := by
  intro id found claimed
  have distinct := run.sound.distinct
  rw [Placement.ids, ← groups, List.flatMap_append, List.nodup_append]
    at distinct
  apply distinct.2.2 id ((run.mem_documented id).mpr claimed) id ?_ rfl
  exact List.mem_flatMap.mpr ⟨group, behind, found⟩

/-- The groups that a run ends with are those of the tiers. -/
theorem tieredGroups (formed : graph.WellFormed)
    (run : TierRun graph bundles walks) :
    TieredGroups graph bundles run.shared.sortedGroups := by
  have none_empty := run.none_empty_shared formed
  have distinct : (run.shared.sortedGroups.flatMap Group.ids).Nodup :=
    (Placement.ids_sortedGroups_perm none_empty).symm.nodup run.sound.distinct
  obtain ⟨rest, groups⟩ := run.documented_prefix formed
  -- Groups of the first two tiers come through the last tier and the sorting.
  have kept {claimed : ComponentId → Prop}
      (held : ∃ group ∈ run.documented.groups, Group.Holds group claimed) :
      ∃ group ∈ run.shared.sortedGroups, Group.Holds group claimed := by
    obtain ⟨group, among, holds⟩ := held
    refine ⟨Group.sorted group, ?_, holds.sorted⟩
    apply (Placement.mem_sortedGroups none_empty).mpr ⟨group, ?_, rfl⟩
    exact groups ▸ List.mem_append_left rest among
  refine ⟨distinct, Placement.nil_not_mem_sortedGroups none_empty, ?_, ?_, ?_⟩
  · intro index some_claim
    obtain ⟨id, claims⟩ := some_claim
    apply Group.existsUnique_holds distinct ⟨id, claims⟩
    apply kept
    obtain ⟨group, among, holds⟩ := run.owns index id claims
    exact ⟨group, run.bundled_prefix.subset among, holds⟩
  · intro some_claim
    apply Group.existsUnique_holds distinct some_claim
    apply kept
    exact run.exists_holds_documented some_claim
  · intro group among
    obtain ⟨old, old_among, rfl⟩ :=
      (Placement.mem_sortedGroups none_empty).mp among
    rw [← groups, List.mem_append] at old_among
    rcases old_among with early | behind
    · rcases run.holds_of_mem_documented early with ⟨index, holds⟩ | holds
      · exact Or.inl ⟨index, holds.sorted⟩
      · exact Or.inr (Or.inl holds.sorted)
    · apply Or.inr
      apply Or.inr
      intro id found
      apply run.not_claimed_of_behind groups behind id
      exact Group.mem_ids_sorted.mp found

end TierRun

/-- Grouping a graph takes three tiers, each of which keeps the groups before it
as they are, and gives exactly the groups of these tiers. -/
theorem planGroups_tiered {components : List Component} {mentions : Mentions}
    {documentTags : List String} {graph : Graph}
    (built : (Graph.build components mentions documentTags).outcome = .ok graph)
    {walks : Walks} (faithful : walks.Faithful graph)
    (bundles : List (List String)) :
    ∃ bundled documented shared kept last,
      (Placement.addBundles {} graph bundles).outcome = .ok bundled ∧
      (bundled.addDocument graph walks).outcome = .ok (documented, kept) ∧
      (documented.addShared graph kept
        (unclaimedRoots graph documented)).outcome = .ok (shared, last) ∧
      (planGroups graph bundles walks).outcome =
        .ok (shared.sortedGroups, last) ∧
      bundled.groups <+: documented.groups ∧
      documented.groups <+: shared.groups ∧
      TieredGroups graph bundles shared.sortedGroups := by
  have formed := Graph.wellFormed_of_build built
  obtain ⟨run⟩ := exists_tierRun formed bundles faithful
  exact ⟨run.bundled, run.documented, run.shared, run.kept, run.last,
    run.outcome_bundles, run.outcome_document, run.outcome_shared,
    run.outcome_planGroups, run.bundled_prefix, run.documented_prefix formed,
    run.tieredGroups formed⟩

/-- In the shop, the bundle has the icon and the root document the rest of what
it needs, which is the application with its card. -/
theorem planGroups_tiered_shop :
    (Graph.build Graph.shopComponents [] ["shop-app"]).outcome =
      .ok (Graph.shopGraph ["shop-app"]) ∧
    Walks.Faithful {} (Graph.shopGraph ["shop-app"]) ∧
    (planGroups (Graph.shopGraph ["shop-app"]) [[" Shop-Icon"]] {}).outcome.map
        (·.1) =
      .ok [[{ id := 0 }, { id := 1 }], [{ id := 2 }],
        [{ id := 3 }, { id := 4, dependents := [3] }]] ∧
    TieredGroups (Graph.shopGraph ["shop-app"]) [[" Shop-Icon"]]
      [[{ id := 0 }, { id := 1 }], [{ id := 2 }],
        [{ id := 3 }, { id := 4, dependents := [3] }]] := by
  have built := Graph.outcome_build_shop ["shop-app"]
  have faithful := Walks.faithful_nil (Graph.shopGraph ["shop-app"])
  have computed :
      (planGroups (Graph.shopGraph ["shop-app"]) [[" Shop-Icon"]]
          {}).outcome.map (·.1) =
        .ok [[{ id := 0 }, { id := 1 }], [{ id := 2 }],
          [{ id := 3 }, { id := 4, dependents := [3] }]] := by
    cbv
  obtain ⟨_, _, shared, _, last, _, _, _, went, _, _, tiered⟩ :=
    planGroups_tiered built faithful [[" Shop-Icon"]]
  refine ⟨built, faithful, computed, ?_⟩
  rw [went] at computed
  have groups : shared.sortedGroups = _ := Except.ok.inj computed
  rwa [groups] at tiered

end CodeSplit
