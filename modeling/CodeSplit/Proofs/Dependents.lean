/-
Module: CodeSplit.Proofs.Dependents
Purpose: what the dependents mean that are recorded for the members of groups:
  they are what made the last tier place the member where it is.
Main exports:
  Residue.Accounted, Placement.Step.accounts, RecordsDependents,
  planGroups_records_dependents
-/
import CodeSplit.Proofs.RidingAlong
import Mathlib

namespace CodeSplit

/-!
A member that is placed for its own sake, or because something needs it that is
placed with it, has no dependents recorded.  Any other member was placed either
for its only dependent, or together with a component of its group whose several
dependents all need it; these dependents are then recorded, and not those that
need the member alone.
-/

/-! ### Members of one group -/

namespace Residue

/-- Why the dependents recorded for a member of a group are what they are. -/
inductive Accounted (residue : Residue) (group : Group) (member : Member) :
    Prop where
  | unrecorded (none : member.dependents = [])
  /-- They are its only dependent. -/
  | one {parent : ResidueNode}
      (needed : residue.dependentsOf member.id = [parent])
      (recorded : member.dependents = [parent.id])
  /-- They are the several dependents of a component of the group, and all of
  them need the member. -/
  | several {cause : ComponentId} (found : cause ∈ Group.ids group)
      (several : 2 ≤ (residue.dependentsOf cause).length)
      (shared : member.id ∈ commonDependencies (residue.dependentsOf cause))
      (recorded :
        member.dependents = (residue.dependentsOf cause).map (·.id))

/-- Every member of the group is accounted for. -/
def Accounts (residue : Residue) (group : Group) : Prop :=
  ∀ member ∈ group, residue.Accounted group member

variable {residue : Residue} {group joining : Group} {member : Member}

/-- A member stays accounted for when others join its group. -/
theorem Accounted.append (accounted : residue.Accounted group member)
    (joining : Group) : residue.Accounted (group ++ joining) member := by
  cases accounted with
  | unrecorded none => exact .unrecorded none
  | one needed recorded => exact .one needed recorded
  | several found several shared recorded =>
      refine .several ?_ several shared recorded
      rw [Group.ids_append]
      exact List.mem_append_left _ found

theorem Accounts.append (accounts : residue.Accounts group)
    (joined : ∀ member ∈ joining,
      residue.Accounted (group ++ joining) member) :
    residue.Accounts (group ++ joining) := by
  intro member found
  rcases List.mem_append.mp found with old | new
  · exact (accounts member old).append joining
  · exact joined member new

theorem accounts_nil : residue.Accounts [] := by
  intro member found
  cases found

/-- What the several dependents of a component share is accounted for in a group
that holds that component. -/
theorem accounted_sharedMembers {cause : ComponentId}
    (several : 2 ≤ (residue.dependentsOf cause).length)
    (found : cause ∈ Group.ids group)
    (shared : member ∈ sharedMembers (residue.dependentsOf cause)) :
    residue.Accounted group member := by
  obtain ⟨id, common, rfl⟩ := List.mem_map.mp shared
  exact .several found several common rfl

/-- A recorded dependent needs the member. -/
theorem Accounted.mem_dependentsOf (accounted : residue.Accounted group member)
    {other : ComponentId} (recorded : other ∈ member.dependents) :
    ∃ node ∈ residue.dependentsOf member.id, node.id = other := by
  cases accounted with
  | unrecorded none =>
      rw [none] at recorded
      cases recorded
  | @one parent needed same =>
      rw [same, List.mem_singleton] at recorded
      exact ⟨parent, needed ▸ List.mem_cons_self, recorded.symm⟩
  | several found several shared same =>
      rw [same] at recorded
      obtain ⟨node, among, rfl⟩ := List.mem_map.mp recorded
      have needs := (mem_commonDependencies (ne_nil_of_several several)).mp
        shared node among
      have known := (Residue.mem_dependentsOf.mp among).1
      exact ⟨node, Residue.mem_dependentsOf.mpr ⟨known, needs⟩, rfl⟩

end Residue

/-! ### Along a run -/

namespace Placement

variable {residue : Residue} {before after : Placement}

/-- The components that came to be placed are accounted for, and the others stay
so. -/
theorem Step.accounts (step : Step residue before after)
    (accounts : ∀ group ∈ before.groups, residue.Accounts group) :
    ∀ group ∈ after.groups, residue.Accounts group := by
  obtain ⟨id, known, free, places⟩ := step.places
  cases places with
  | alone unneeded groups =>
      apply forall_groups_of_append accounts groups
      apply Residue.accounts_nil.append
      simpa using Residue.Accounted.unrecorded rfl
  | joins needed held groups =>
      apply forall_groups_of_modify accounts groups
      intro home at_index
      apply (accounts home (List.mem_of_getElem? at_index)).append
      simpa using Residue.Accounted.one needed rfl
  | founds needed parentFree groups =>
      apply forall_groups_of_append accounts groups
      apply Residue.accounts_nil.append
      simpa using
        ⟨Residue.Accounted.unrecorded rfl, Residue.Accounted.one needed rfl⟩
  | merges several shared held groups =>
      apply forall_groups_of_modify accounts groups
      intro home at_index
      apply (accounts home (List.mem_of_getElem? at_index)).append
      intro member joins
      have own : id ∈ Group.ids (before.unplaced
          (Residue.sharedMembers (residue.dependentsOf id))) := by
        obtain ⟨self, among, same⟩ := Group.mem_ids_iff.mp
          (Residue.mem_ids_sharedMembers_self
            (Residue.ne_nil_of_several several))
        exact Group.mem_ids_iff.mpr
          ⟨self, (mem_unplaced step.sound).mpr ⟨among, same ▸ free⟩, same⟩
      apply Residue.accounted_sharedMembers several
      · rw [Group.ids_append]
        exact List.mem_append_right _ own
      · exact ((mem_unplaced step.sound).mp joins).1
  | shares several unshared groups =>
      apply forall_groups_of_append accounts groups
      intro member found
      exact Residue.accounted_sharedMembers several
        (Residue.mem_ids_sharedMembers_self
          (Residue.ne_nil_of_several several)) found

/-- After a run, every member is accounted for. -/
theorem Steps.accounts (steps : Steps residue before after)
    (accounts : ∀ group ∈ before.groups, residue.Accounts group) :
    ∀ group ∈ after.groups, residue.Accounts group := by
  induction steps with
  | refl => exact accounts
  | tail _ step ih => exact step.accounts ih

end Placement

/-! ### In the groups of a graph -/

/-- What the dependents recorded for a member of a group mean.  Where there are
any, the last tier placed the member: for its only dependent, or else with a
member of the group, perhaps itself, of which they are all the dependents. -/
structure RecordsDependents (graph : Graph) (bundles : List (List String))
    (group : Group) (member : Member) : Prop where
  ascends : member.dependents.Pairwise (· < ·)
  claimed : graph.Claimed bundles member.id → member.dependents = []
  direct : ∀ other ∈ member.dependents,
    graph.FactorDependent bundles member.id other
  one : member.dependents ≠ [] →
    ∀ parent, graph.OnlyDependent bundles member.id parent →
      member.dependents = [parent]
  several : member.dependents ≠ [] →
    (∃ first second, first ≠ second ∧
      graph.FactorDependent bundles member.id first ∧
      graph.FactorDependent bundles member.id second) →
    2 ≤ member.dependents.length ∧
      ∃ cause ∈ Group.ids group, ∀ other,
        other ∈ member.dependents ↔ graph.FactorDependent bundles cause other

namespace TierRun

variable {graph : Graph} {bundles : List (List String)} {walks : Walks}

/-- Before the last tier, no dependents are recorded. -/
theorem dependents_of_mem_documented (run : TierRun graph bundles walks)
    {group : Group} (among : group ∈ run.documented.groups) {member : Member}
    (found : member ∈ group) : member.dependents = [] := by
  rcases run.holds_of_mem_documented among with ⟨index, holds⟩ | holds
  · exact ((holds member).mp found).1
  · exact ((holds member).mp found).1

/-- A run ends with groups whose members are accounted for. -/
theorem accounts_shared (run : TierRun graph bundles walks) :
    ∀ group ∈ run.shared.groups, run.residue.Accounts group :=
  run.steps.accounts fun _ among _ found =>
    .unrecorded (run.dependents_of_mem_documented among found)

theorem factorDependent_iff (run : TierRun graph bundles walks)
    {id other : ComponentId} :
    graph.FactorDependent bundles id other ↔
      ∃ node ∈ run.residue.dependentsOf id, node.id = other :=
  Graph.factorDependent_iff run.mem_members

/-- The dependents of a component in the residue are distinct. -/
theorem nodup_ids_dependentsOf (run : TierRun graph bundles walks)
    (id : ComponentId) :
    ((run.residue.dependentsOf id).map (·.id)).Nodup := by
  have distinct : run.residue.ids.Nodup := by
    rw [residue, Residue.ids_ofMembers]
    exact run.distinct
  exact distinct.sublist (List.filter_sublist.map _)

/-- A member that is accounted for records its dependents, once they are in
order. -/
theorem recordsDependents (formed : graph.WellFormed)
    (run : TierRun graph bundles walks) {old : Group}
    (among : old ∈ run.shared.groups) {member : Member} (found : member ∈ old) :
    RecordsDependents graph bundles (Group.sorted old)
      { member with dependents := ascending member.dependents } where
  ascends := ascending_pairwise _
  claimed claimed := by
    rcases run.steps.ofResidue (run.residue_wellFormed formed) among found with
      ⟨first, first_among, first_found⟩ | own
    · have none := run.dependents_of_mem_documented first_among first_found
      simp [none, ascending]
    · exact absurd claimed (run.mem_ids_residue.mp own.1).1
  direct other recorded := by
    rw [mem_ascending] at recorded
    exact run.factorDependent_iff.mpr
      ((run.accounts_shared old among member found).mem_dependentsOf recorded)
  one some_dependent parent only := by
    obtain ⟨node, needed, rfl⟩ :=
      (Graph.onlyDependent_iff run.distinct run.mem_members).mp only
    change run.residue.dependentsOf member.id = [node] at needed
    cases run.accounts_shared old among member found with
    | unrecorded none => simp [none, ascending] at some_dependent
    | one needed' recorded =>
        obtain rfl : node = _ := by simpa [needed] using needed'
        simp [recorded, ascending, insertAscending]
    | several _ several shared _ =>
        have more := Residue.several_of_shared several shared
        simp [needed] at more
  several some_dependent apart := by
    obtain ⟨first, second, apart, needs, needs'⟩ := apart
    cases run.accounts_shared old among member found with
    | unrecorded none => simp [none, ascending] at some_dependent
    | one needed _ =>
        simp only [run.factorDependent_iff, needed, List.mem_singleton,
          exists_eq_left] at needs needs'
        exact absurd (needs.symm.trans needs') apart
    | @several cause inside several _ recorded =>
        have distinct := run.nodup_ids_dependentsOf cause
        refine ⟨?_, cause, Group.mem_ids_sorted.mpr inside, fun other => ?_⟩
        · rw [recorded, (ascending_perm distinct).length_eq, List.length_map]
          exact several
        · rw [mem_ascending, recorded, run.factorDependent_iff, List.mem_map]

end TierRun

/-- In the groups of a graph, the dependents that are recorded for a member are
ascending, and say why the last tier placed the member in its group; what a
bundle or the root document claims has none. -/
theorem planGroups_records_dependents {components : List Component}
    {mentions : Mentions} {documentTags : List String} {graph : Graph}
    (built : (Graph.build components mentions documentTags).outcome =
      .ok graph)
    {walks : Walks} (faithful : walks.Faithful graph)
    (bundles : List (List String)) :
    ∃ groups last,
      (planGroups graph bundles walks).outcome = .ok (groups, last) ∧
      ∀ group ∈ groups, ∀ member ∈ group,
        RecordsDependents graph bundles group member := by
  have formed := Graph.wellFormed_of_build built
  obtain ⟨run⟩ := exists_tierRun formed bundles faithful
  refine ⟨_, run.last, run.outcome_planGroups,
    fun group among member found => ?_⟩
  obtain ⟨old, old_among, rfl⟩ :=
    (Placement.mem_sortedGroups (run.none_empty_shared formed)).mp among
  obtain ⟨own, own_found, rfl⟩ := Group.mem_sorted.mp found
  exact run.recordsDependents formed old_among own_found

/-- Components of a gallery, in the order of their tags: two icons, the first of
which the list and the page need, and the second one the title as well. -/
def galleryComponents : List Component :=
  [{ tag := "gallery-list", source := ⟨"list.js"⟩,
     dependencies := ["icon-arrow", "icon-base"] },
   { tag := "gallery-page", source := ⟨"page.js"⟩,
     dependencies := ["icon-arrow", "icon-base"] },
   { tag := "gallery-title", source := ⟨"title.js"⟩,
     dependencies := ["icon-base"] },
   { tag := "icon-arrow", source := ⟨"arrow.js"⟩, isExternal := true },
   { tag := "icon-base", source := ⟨"base.js"⟩, isExternal := true }]

/-- The graph of the gallery. -/
def galleryGraph : Graph :=
  Graph.link galleryComponents [] []

/-- In the gallery both icons are placed when the first one is, for the list and
the page; so the second icon has these recorded, although three components need
it. -/
theorem planGroups_records_dependents_gallery :
    (Graph.build galleryComponents [] []).outcome = .ok galleryGraph ∧
    Walks.Faithful {} galleryGraph ∧
    (planGroups galleryGraph [] {}).outcome.map (·.1) =
      .ok [[{ id := 0 }], [{ id := 1 }], [{ id := 2 }],
        [{ id := 3, dependents := [0, 1] },
          { id := 4, dependents := [0, 1] }]] ∧
    galleryGraph.dependents 4 = [0, 1, 2] ∧
    RecordsDependents galleryGraph []
      [{ id := 3, dependents := [0, 1] }, { id := 4, dependents := [0, 1] }]
      { id := 4, dependents := [0, 1] } := by
  have built : (Graph.build galleryComponents [] []).outcome =
      .ok galleryGraph := by
    have ordered : Graph.orderByTag galleryComponents = galleryComponents :=
      List.mergeSort_of_pairwise (by decide)
    rw [Graph.outcome_build [] [] (by decide), ordered]
    rfl
  have faithful := Walks.faithful_nil galleryGraph
  have computed : (planGroups galleryGraph [] {}).outcome.map (·.1) =
      .ok [[{ id := 0 }], [{ id := 1 }], [{ id := 2 }],
        [{ id := 3, dependents := [0, 1] },
          { id := 4, dependents := [0, 1] }]] := by
    cbv
  obtain ⟨groups, last, went, records⟩ :=
    planGroups_records_dependents built faithful []
  refine ⟨built, faithful, computed, by decide, ?_⟩
  rw [went] at computed
  obtain rfl := Except.ok.inj computed
  exact records _ (by simp) _ (by simp)

end CodeSplit
