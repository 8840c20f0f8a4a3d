/-
Module: CodeSplit.Proofs.Finished
Purpose: the groups that a run of the tiers ends with can be split and checked,
  and become the entry modules of the graph.
Main exports:
  TierRun.finished, TierRun.mem_ids_finished, TierRun.checkGroups_finished,
  TierRun.outcome_planEntries
-/
import CodeSplit.Plan
import CodeSplit.Proofs.Entries
import CodeSplit.Proofs.Styling
import CodeSplit.Proofs.Tiers

namespace CodeSplit

namespace Graph

variable {graph : Graph} {bundles : List (List String)} {id : ComponentId}

/-- What the root document needs is a component of the graph. -/
theorem NeededByDocument.lt (formed : graph.WellFormed)
    (needed : graph.NeededByDocument id) : id < graph.size := by
  obtain ⟨root, among, reaches⟩ := needed
  exact reaches.lt formed (formed.roots_lt among)

/-- What is claimed is a component of the graph. -/
theorem Claimed.lt (formed : graph.WellFormed)
    (claimed : graph.Claimed bundles id) : id < graph.size := by
  rcases claimed with ⟨bundle, _, names⟩ | needed
  · exact names.lt
  · exact needed.lt formed

/-- Every component of the application is claimed or left to the last tier. -/
theorem claimed_or_inResidue (known : id < graph.size)
    (own : graph.isExternal id = false) :
    graph.Claimed bundles id ∨ graph.InResidue bundles id := by
  by_cases claimed : graph.Claimed bundles id
  · exact Or.inl claimed
  · exact Or.inr (UnclaimedRoot.inResidue ⟨known, own, claimed⟩)

end Graph

namespace TierRun

variable {graph : Graph} {bundles : List (List String)} {walks : Walks}

/-- The groups of the tiers, in order. -/
def groups (run : TierRun graph bundles walks) : List Group :=
  run.shared.sortedGroups

/-- The groups after splitting them by encapsulation. -/
def finished (run : TierRun graph bundles walks) : List Group :=
  splitByStyling graph run.groups

theorem ids_groups_perm (formed : graph.WellFormed)
    (run : TierRun graph bundles walks) :
    (run.groups.flatMap Group.ids).Perm run.shared.ids :=
  Placement.ids_sortedGroups_perm (run.none_empty_shared formed)

theorem distinct_groups (formed : graph.WellFormed)
    (run : TierRun graph bundles walks) :
    (run.groups.flatMap Group.ids).Nodup :=
  (run.ids_groups_perm formed).symm.nodup run.sound.distinct

/-- No component is in the finished groups twice. -/
theorem distinct_finished (formed : graph.WellFormed)
    (run : TierRun graph bundles walks) :
    (run.finished.flatMap Group.ids).Nodup :=
  (ids_splitByStyling_perm graph (run.distinct_groups formed)).symm.nodup
    (run.distinct_groups formed)

/-- Exactly what is claimed and what is left to the last tier is in a finished
group. -/
theorem mem_ids_finished (formed : graph.WellFormed)
    (run : TierRun graph bundles walks) {id : ComponentId} :
    id ∈ run.finished.flatMap Group.ids ↔
      graph.Claimed bundles id ∨ graph.InResidue bundles id := by
  rw [finished,
    (ids_splitByStyling_perm graph (run.distinct_groups formed)).mem_iff,
    (run.ids_groups_perm formed).mem_iff, run.mem_ids_shared formed]

/-- The finished groups hold components of the graph. -/
theorem lt_of_mem_finished (formed : graph.WellFormed)
    (run : TierRun graph bundles walks) {group : Group}
    (among : group ∈ run.finished) {id : ComponentId}
    (found : id ∈ Group.ids group) : id < graph.size := by
  have placed : id ∈ run.finished.flatMap Group.ids :=
    List.mem_flatMap.mpr ⟨group, among, found⟩
  rcases (run.mem_ids_finished formed).mp placed with claimed | left
  · exact claimed.lt formed
  · exact left.lt formed

theorem nil_not_mem_finished (formed : graph.WellFormed)
    (run : TierRun graph bundles walks) : [] ∉ run.finished :=
  nil_not_mem_splitByStyling graph (run.distinct_groups formed)

/-- The finished groups pass their check. -/
theorem checkGroups_finished (formed : graph.WellFormed)
    (run : TierRun graph bundles walks) :
    checkGroups graph run.finished = .ok () := by
  refine checkGroups_eq_ok_iff.mpr ⟨run.distinct_finished formed, ?_⟩
  intro id known own
  exact (run.mem_ids_finished formed).mpr
    (Graph.claimed_or_inResidue known own)

/-- Every finished group becomes an entry module. -/
theorem outcome_assembleEntries (formed : graph.WellFormed)
    (run : TierRun graph bundles walks) :
    assembleEntries graph run.finished =
      .ok (run.finished.map (Entry.ofGroup graph)) := by
  have all : run.finished.filter (!·.isEmpty) = run.finished := by
    rw [List.filter_eq_self]
    intro group among
    cases group with
    | nil => exact absurd among (run.nil_not_mem_finished formed)
    | cons => rfl
  rw [assembleEntries, run.checkGroups_finished formed, all]

/-- The entry modules of a graph are those of the finished groups, unless the
build is called off. -/
theorem outcome_planEntries (formed : graph.WellFormed)
    (run : TierRun graph bundles {}) :
    (graph.planEntries bundles false).outcome =
      .ok (run.finished.map (Entry.ofGroup graph)) := by
  rw [Graph.planEntries, Planning.outcome_bind_of_ok run.outcome_planGroups]
  show (Planning.note _ >>= _).outcome = _
  rw [Planning.outcome_bind_of_ok rfl, if_neg Bool.false_ne_true,
    Planning.outcome_bind_of_ok rfl]
  show (Planning.ofExcept
    (assembleEntries graph run.finished) >>= _).outcome = _
  rw [Planning.outcome_bind_of_ok (run.outcome_assembleEntries formed)]
  exact Planning.outcome_bind_of_ok rfl _

end TierRun

end CodeSplit
