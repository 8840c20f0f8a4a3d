/-
Module: CodeSplit.Proofs.Isolation
Purpose: a component that nothing left to the last tier needs shares its group
  only with what is needed from within that group.
Main exports:
  Residue.Isolates, Placement.Step.isolates, Graph.FactorDependent,
  Graph.TopLevel, IsolatedGroup, planGroups_isolates
-/
import CodeSplit.Proofs.Linking
import CodeSplit.Proofs.Tiers
import Mathlib

namespace CodeSplit

/-! ### Isolation of one group -/

namespace Residue

/-- In a group with a member of the residue that no other one needs, every other
component is needed by exactly one member of the residue, which is in the
group. -/
def Isolates (residue : Residue) (group : Group) : Prop :=
  ∀ top ∈ Group.ids group, top ∈ residue.ids → residue.dependentsOf top = [] →
    ∀ id ∈ Group.ids group, id ≠ top →
      ∃ parent, residue.dependentsOf id = [parent] ∧
        parent.id ∈ Group.ids group

variable {residue : Residue} {home : Group} {id : ComponentId}

/-- A group in which everything is needed is isolated. -/
theorem isolates_of_needed
    (needed : ∀ top ∈ Group.ids home, residue.dependentsOf top ≠ []) :
    residue.Isolates home := by
  intro top found _ unneeded
  exact absurd unneeded (needed top found)

/-- A group of one component is isolated. -/
theorem isolates_singleton (member : Member) : residue.Isolates [member] := by
  intro top found _ _ id found' apart
  rw [Group.ids_cons, Group.ids_nil, List.mem_singleton] at found found'
  exact absurd (found'.trans found.symm) apart

/-- A component may join the group of its only dependent. -/
theorem Isolates.join_parent (isolates : residue.Isolates home)
    {parent : ResidueNode} (needed : residue.dependentsOf id = [parent])
    (parent_found : parent.id ∈ Group.ids home) {member : Member}
    (same : member.id = id) : residue.Isolates (home ++ [member]) := by
  intro top found known unneeded other found' apart
  rw [Group.ids_append] at found found' ⊢
  simp only [Group.ids_cons, Group.ids_nil, List.mem_append,
    List.mem_singleton] at found found' ⊢
  have top_found : top ∈ Group.ids home := by
    rcases found with found | joined
    · exact found
    · rw [joined, same, needed] at unneeded
      cases unneeded
  rcases found' with found' | joined
  · obtain ⟨only, one, inside⟩ :=
      isolates top top_found known unneeded other found' apart
    exact ⟨only, one, Or.inl inside⟩
  · rw [joined, same]
    exact ⟨parent, needed, Or.inl parent_found⟩

/-- Needed components may join a group that holds something with several
dependents: no member of such a group is unneeded. -/
theorem Isolates.join_shared (isolates : residue.Isolates home)
    {other : ComponentId} (other_found : other ∈ Group.ids home)
    (several : 2 ≤ (residue.dependentsOf other).length) {members : Group}
    (needed : ∀ id ∈ Group.ids members, residue.dependentsOf id ≠ []) :
    residue.Isolates (home ++ members) := by
  intro top found known unneeded
  exfalso
  rw [Group.ids_append, List.mem_append] at found
  rcases found with found | joined
  · have apart : other ≠ top := by
      rintro rfl
      rw [unneeded] at several
      exact absurd several (by simp)
    obtain ⟨only, one, _⟩ :=
      isolates top found known unneeded other other_found apart
    rw [one] at several
    exact absurd several (by simp)
  · exact needed top joined unneeded

/-- Whatever the several dependents of a component share has several
dependents. -/
theorem several_of_shared (several : 2 ≤ (residue.dependentsOf id).length)
    {other : ComponentId}
    (shared : other ∈ commonDependencies (residue.dependentsOf id)) :
    2 ≤ (residue.dependentsOf other).length :=
  several.trans (length_dependentsOf_le (ne_nil_of_several several) shared)

theorem needed_of_shared (several : 2 ≤ (residue.dependentsOf id).length)
    {other : ComponentId}
    (shared : other ∈ Group.ids (sharedMembers (residue.dependentsOf id))) :
    residue.dependentsOf other ≠ [] := by
  rw [ids_sharedMembers] at shared
  exact ne_nil_of_several (several_of_shared several shared)

end Residue

/-! ### Isolation along a run -/

namespace Placement

variable {residue : Residue} {before after : Placement}

/-- A step keeps groups isolated. -/
theorem Step.isolates (step : Step residue before after)
    (isolates : ∀ group ∈ before.groups, residue.Isolates group) :
    ∀ group ∈ after.groups, residue.Isolates group := by
  obtain ⟨id, known, free, places⟩ := step.places
  cases places with
  | alone unneeded groups =>
      exact forall_groups_of_append isolates groups
        (Residue.isolates_singleton _)
  | joins needed held groups =>
      apply forall_groups_of_modify isolates groups
      intro home at_index
      have found := step.sound.mem_of_held held at_index
      exact (isolates home (List.mem_of_getElem? at_index)).join_parent needed
        found rfl
  | founds needed parentFree groups =>
      apply forall_groups_of_append isolates groups
      exact (Residue.isolates_singleton _).join_parent needed (by simp) rfl
  | merges several shared held groups =>
      apply forall_groups_of_modify isolates groups
      intro home at_index
      have found := step.sound.mem_of_held held at_index
      refine (isolates home (List.mem_of_getElem? at_index)).join_shared found
        (Residue.several_of_shared several shared) fun other joins => ?_
      obtain ⟨member, among, rfl⟩ := Group.mem_ids_iff.mp joins
      exact Residue.needed_of_shared several (Group.mem_ids_iff.mpr
        ⟨member, ((mem_unplaced step.sound).mp among).1, rfl⟩)
  | shares several unshared groups =>
      exact forall_groups_of_append isolates groups
        (Residue.isolates_of_needed fun _ => Residue.needed_of_shared several)

/-- A run keeps groups isolated. -/
theorem Steps.isolates (steps : Steps residue before after)
    (isolates : ∀ group ∈ before.groups, residue.Isolates group) :
    ∀ group ∈ after.groups, residue.Isolates group := by
  induction steps with
  | refl => exact isolates
  | tail _ step ih => exact step.isolates ih

end Placement

/-! ### Isolation in a graph -/

namespace Graph

variable (graph : Graph) (bundles : List (List String))

/-- Both components are left to the last tier, and the second one needs the
first one directly. -/
def FactorDependent (id other : ComponentId) : Prop :=
  graph.InResidue bundles id ∧ graph.InResidue bundles other ∧
    id ∈ graph.dependencies other

/-- The component is left to the last tier, and nothing that is left to it needs
the component directly. -/
def TopLevel (id : ComponentId) : Prop :=
  graph.InResidue bundles id ∧ ∀ other, ¬ graph.FactorDependent bundles id other

end Graph

/-- A group is isolated around a component: it is the only one in the group that
nothing left to the last tier needs, each other component is needed by one that
is in the group as well and by no other, and so nothing in the group is shared
or needed from outside. -/
structure IsolatedGroup (graph : Graph) (bundles : List (List String))
    (top : ComponentId) (group : Group) : Prop where
  only_top : ∀ id ∈ Group.ids group, graph.TopLevel bundles id → id = top
  one_dependent : ∀ id ∈ Group.ids group, id ≠ top →
    ∃ parent ∈ Group.ids group,
      ∀ other, graph.FactorDependent bundles id other ↔ other = parent
  unshared : ∀ id ∈ Group.ids group, ∀ one other,
    graph.FactorDependent bundles id one →
      graph.FactorDependent bundles id other → one = other
  closed : ∀ id ∈ Group.ids group, ∀ other,
    graph.FactorDependent bundles id other → other ∈ Group.ids group

/-- Where every other component has its one dependent in the group, the group is
isolated. -/
theorem isolatedGroup_of_one_dependent {graph : Graph}
    {bundles : List (List String)} {top : ComponentId} {group : Group}
    (unneeded : graph.TopLevel bundles top)
    (one_dependent : ∀ id ∈ Group.ids group, id ≠ top →
      ∃ parent ∈ Group.ids group,
        ∀ other, graph.FactorDependent bundles id other ↔ other = parent) :
    IsolatedGroup graph bundles top group where
  only_top id found unneeded' := by
    by_contra apart
    obtain ⟨parent, _, only⟩ := one_dependent id found apart
    exact unneeded'.2 parent ((only parent).mpr rfl)
  one_dependent := one_dependent
  unshared id found one other needs needs' := by
    have apart : id ≠ top := by
      rintro rfl
      exact unneeded.2 one needs
    obtain ⟨parent, _, only⟩ := one_dependent id found apart
    exact ((only one).mp needs).trans ((only other).mp needs').symm
  closed id found other needs := by
    have apart : id ≠ top := by
      rintro rfl
      exact unneeded.2 other needs
    obtain ⟨parent, inside, only⟩ := one_dependent id found apart
    rwa [(only other).mp needs]

/-- The dependents of a component in a residue of all that is left to the last
tier are its dependents among that. -/
theorem Graph.factorDependent_iff {graph : Graph}
    {bundles : List (List String)} {members : List ComponentId}
    (mem_members : ∀ id, id ∈ members ↔ graph.InResidue bundles id)
    {id other : ComponentId} :
    graph.FactorDependent bundles id other ↔
      ∃ node ∈ (Residue.ofMembers graph members).dependentsOf id,
        node.id = other := by
  simp only [Residue.mem_dependentsOf, Residue.ofMembers,
    Graph.FactorDependent, ← mem_members]
  constructor
  · intro given
    obtain ⟨among, other_among, needs⟩ := given
    refine ⟨_, ⟨List.mem_map_of_mem other_among, ?_⟩, rfl⟩
    exact List.mem_filter.mpr ⟨needs, decide_eq_true among⟩
  · intro given
    obtain ⟨_, ⟨node_among, needs⟩, rfl⟩ := given
    obtain ⟨other, other_among, rfl⟩ := List.mem_map.mp node_among
    obtain ⟨needs, among⟩ := List.mem_filter.mp needs
    exact ⟨of_decide_eq_true among, other_among, needs⟩

namespace TierRun

variable {graph : Graph} {bundles : List (List String)} {walks : Walks}

/-- A component that nothing left to the last tier needs has no dependents in
the residue. -/
theorem dependentsOf_eq_nil (run : TierRun graph bundles walks)
    {top : ComponentId} (unneeded : graph.TopLevel bundles top) :
    run.residue.dependentsOf top = [] := by
  rw [List.eq_nil_iff_forall_not_mem]
  intro node needs
  exact unneeded.2 node.id ((Graph.factorDependent_iff run.mem_members).mpr
    ⟨node, needs, rfl⟩)

/-- The groups that a run ends with are isolated. -/
theorem isolatedGroup (formed : graph.WellFormed)
    (run : TierRun graph bundles walks) {group : Group}
    (among : group ∈ run.shared.sortedGroups) {top : ComponentId}
    (found : top ∈ Group.ids group) (unneeded : graph.TopLevel bundles top) :
    IsolatedGroup graph bundles top group := by
  obtain ⟨old, old_among, rfl⟩ :=
    (Placement.mem_sortedGroups (run.none_empty_shared formed)).mp among
  have start : ∀ first ∈ run.documented.groups,
      run.residue.Isolates first := by
    intro first first_among top found known
    exact absurd (Placement.mem_ids.mpr ⟨first, first_among, found⟩)
      (run.residue_apart top known)
  have isolates : run.residue.Isolates old :=
    run.steps.isolates start old old_among
  apply isolatedGroup_of_one_dependent unneeded
  intro id found' apart
  rw [Group.mem_ids_sorted] at found found'
  obtain ⟨parent, one, inside⟩ := isolates top found
    (run.mem_ids_residue.mpr unneeded.1) (run.dependentsOf_eq_nil unneeded)
    id found' apart
  refine ⟨parent.id, Group.mem_ids_sorted.mpr inside, fun other => ?_⟩
  rw [Graph.factorDependent_iff run.mem_members, ← residue, one]
  simp [eq_comm]

end TierRun

/-- In the groups of a graph, every component that nothing left to the last tier
needs is isolated with what only its group needs. -/
theorem planGroups_isolates {components : List Component} {mentions : Mentions}
    {documentTags : List String} {graph : Graph}
    (built : (Graph.build components mentions documentTags).outcome = .ok graph)
    {walks : Walks} (faithful : walks.Faithful graph)
    (bundles : List (List String)) :
    ∃ groups last,
      (planGroups graph bundles walks).outcome = .ok (groups, last) ∧
      ∀ group ∈ groups, ∀ top ∈ Group.ids group,
        graph.TopLevel bundles top → IsolatedGroup graph bundles top group := by
  have formed := Graph.wellFormed_of_build built
  obtain ⟨run⟩ := exists_tierRun formed bundles faithful
  exact ⟨_, run.last, run.outcome_planGroups,
    fun group among top found unneeded =>
      run.isolatedGroup formed among found unneeded⟩

/-- In the shop, the list is isolated with its row; the icon, which the row
needs as well, has a group of its own. -/
theorem planGroups_isolates_shop :
    (Graph.build Graph.shopComponents [] []).outcome =
      .ok (Graph.shopGraph []) ∧
    Walks.Faithful {} (Graph.shopGraph []) ∧
    (Graph.shopGraph []).TopLevel [] 3 ∧
    (planGroups (Graph.shopGraph []) [] {}).outcome.map (·.1) =
      .ok [[{ id := 0 }, { id := 1, dependents := [0] }],
        [{ id := 2, dependents := [1, 3, 4] }],
        [{ id := 3 }, { id := 4, dependents := [3] }]] ∧
    IsolatedGroup (Graph.shopGraph []) [] 3
      [{ id := 3 }, { id := 4, dependents := [3] }] := by
  have built := Graph.outcome_build_shop []
  have faithful := Walks.faithful_nil (Graph.shopGraph [])
  have unclaimed (id : ComponentId) :
      ¬ (Graph.shopGraph []).Claimed [] id := by
    intro given
    rcases given with ⟨_, among, _⟩ | ⟨root, among, _⟩
    · cases among
    · rw [show (Graph.shopGraph []).documentRoots = [] from rfl] at among
      cases among
  have unneeded : (Graph.shopGraph []).TopLevel [] 3 := by
    refine ⟨⟨unclaimed 3, 3, ⟨by decide, by decide, unclaimed 3⟩, .refl⟩, ?_⟩
    intro other given
    obtain ⟨_, among, needs⟩ := given
    have known : other < 5 := among.lt (Graph.wellFormed_of_build built)
    have none : ∀ other < 5, 3 ∉ (Graph.shopGraph []).dependencies other := by
      decide
    exact none other known needs
  have computed :
      (planGroups (Graph.shopGraph []) [] {}).outcome.map (·.1) =
        .ok [[{ id := 0 }, { id := 1, dependents := [0] }],
          [{ id := 2, dependents := [1, 3, 4] }],
          [{ id := 3 }, { id := 4, dependents := [3] }]] := by
    cbv
  obtain ⟨groups, last, went, isolated⟩ :=
    planGroups_isolates built faithful []
  refine ⟨built, faithful, unneeded, computed, ?_⟩
  rw [went] at computed
  obtain rfl := Except.ok.inj computed
  exact isolated _ (by simp) 3 (by simp) unneeded

end CodeSplit
