/-
Module: CodeSplit.Proofs.Tiers
Purpose: what each of the three tiers claims, and that all of them always have a
  result.
Main exports:
  Graph.Bundled, Graph.Documented, Graph.InResidue, TierRun, exists_tierRun,
  TierRun.outcome_planGroups
-/
import CodeSplit.Group.Tiers
import CodeSplit.Proofs.Bundles
import CodeSplit.Proofs.GroupOrder
import CodeSplit.Proofs.Residue

namespace CodeSplit

/-!
Which tier a component belongs to is said here of the graph and the bundles
alone, without looking at how components are placed.  A run of the tiers is then
shown to exist for every graph, and to place what these statements say.
-/

/-! ### What each tier claims -/

namespace Graph

variable (graph : Graph) (bundles : List (List String))

/-- Some bundle of the user names the component. -/
def Bundled (id : ComponentId) : Prop :=
  ∃ bundle ∈ bundles, graph.Names bundle id

/-- The root document needs the component, directly or through others. -/
def NeededByDocument (id : ComponentId) : Prop :=
  ∃ root ∈ graph.documentRoots, graph.Reaches root id

/-- The root document needs the component, and no bundle names it. -/
def Documented (id : ComponentId) : Prop :=
  ¬ graph.Bundled bundles id ∧ graph.NeededByDocument id

/-- A bundle or the root document claims the component. -/
def Claimed (id : ComponentId) : Prop :=
  graph.Bundled bundles id ∨ graph.NeededByDocument id

/-- The component is a root of the last tier: it belongs to the application, and
neither a bundle nor the root document claims it. -/
def UnclaimedRoot (id : ComponentId) : Prop :=
  id < graph.size ∧ graph.isExternal id = false ∧ ¬ graph.Claimed bundles id

/-- The component is left to the last tier: it is not claimed and can be reached
from a root of that tier. -/
def InResidue (id : ComponentId) : Prop :=
  ¬ graph.Claimed bundles id ∧
    ∃ root, graph.UnclaimedRoot bundles root ∧ graph.Reaches root id

variable {graph bundles}

/-- A component is named by a bundle exactly when one of them claims it. -/
theorem bundled_iff_exists_claimedBy {id : ComponentId} :
    graph.Bundled bundles id ↔ ∃ index, graph.ClaimedBy bundles index id := by
  constructor
  · intro given
    obtain ⟨bundle, among, names⟩ := given
    obtain ⟨index, at_index⟩ := List.mem_iff_getElem?.mp among
    have some_entry : bundle ≠ [] := by
      rintro rfl
      exact not_names_nil names
    obtain ⟨⟨owner, other⟩, first⟩ := exists_firstToName.mpr
      ⟨(bundle, index),
        Placement.mem_orderBundles.mpr ⟨at_index, some_entry⟩, names⟩
    exact ⟨other, (firstToName_orderBundles_iff.mp first).2⟩
  · intro given
    obtain ⟨index, bundle, at_index, names, _⟩ := given
    exact ⟨bundle, List.mem_of_getElem? at_index, names⟩

/-- An unclaimed root is in the residue itself. -/
theorem UnclaimedRoot.inResidue {id : ComponentId}
    (root : graph.UnclaimedRoot bundles id) : graph.InResidue bundles id :=
  ⟨root.2.2, id, root, .refl⟩

theorem InResidue.lt (formed : graph.WellFormed) {id : ComponentId}
    (among : graph.InResidue bundles id) : id < graph.size := by
  obtain ⟨_, root, unclaimed, reaches⟩ := among
  exact reaches.lt formed unclaimed.1

end Graph

/-! ### The first tier -/

namespace Placement

variable {graph : Graph} {placement : Placement} {walks : Walks}

/-- Where every group is what some bundle claims and every claim has a group,
the components with a group are those that some bundle names. -/
theorem mem_ids_iff_bundled {bundles : List (List String)}
    (owned : ∀ group ∈ placement.groups, ∃ index,
      Group.Holds group (graph.ClaimedBy bundles index))
    (owns : ∀ index id, graph.ClaimedBy bundles index id →
      ∃ group ∈ placement.groups,
        Group.Holds group (graph.ClaimedBy bundles index))
    {id : ComponentId} : id ∈ placement.ids ↔ graph.Bundled bundles id := by
  rw [mem_ids, Graph.bundled_iff_exists_claimedBy]
  constructor
  · intro given
    obtain ⟨group, among, found⟩ := given
    obtain ⟨index, holds⟩ := owned group among
    exact ⟨index, holds.mem_ids_iff.mp found⟩
  · intro given
    obtain ⟨index, claims⟩ := given
    obtain ⟨group, among, holds⟩ := owns index id claims
    exact ⟨group, among, holds.mem_ids_iff.mpr claims⟩

/-- Placing the bundles of the user first of all has a result: one group for
each bundle that claims something, with what it claims. -/
theorem exists_addBundles_first (graph : Graph) (bundles : List (List String)) :
    ∃ after,
      (Placement.addBundles {} graph bundles).outcome = .ok after ∧
      after.Sound ∧ [] ∉ after.groups ∧
      (∀ group ∈ after.groups, ∃ index,
        Group.Holds group (graph.ClaimedBy bundles index)) ∧
      (∀ index id, graph.ClaimedBy bundles index id →
        ∃ group ∈ after.groups,
          Group.Holds group (graph.ClaimedBy bundles index)) ∧
      ∀ id, id ∈ after.ids ↔ graph.Bundled bundles id := by
  obtain ⟨after, added, went, afterSound, groups, none_empty, owned, owns⟩ :=
    exists_addBundles graph sound_empty bundles
  obtain rfl : after.groups = added := groups
  have free (id : ComponentId) : id ∉ ({} : Placement).ids := List.not_mem_nil
  have owned' : ∀ group ∈ after.groups, ∃ index,
      Group.Holds group (graph.ClaimedBy bundles index) := by
    intro group among
    obtain ⟨index, holds⟩ := owned group among
    exact ⟨index, holds.congr fun id => and_iff_left (free id)⟩
  have owns' : ∀ index id, graph.ClaimedBy bundles index id →
      ∃ group ∈ after.groups,
        Group.Holds group (graph.ClaimedBy bundles index) := by
    intro index id claims
    obtain ⟨group, among, holds⟩ := owns index id claims (free id)
    exact ⟨group, among, holds.congr fun id => and_iff_left (free id)⟩
  exact ⟨after, went, afterSound, none_empty, owned', owns',
    fun id => mem_ids_iff_bundled owned' owns'⟩

/-! ### The second and the third tier -/

/-- Placing what the root document needs has a result: one group of everything
that it needs and that has no group, if there is any. -/
theorem exists_addDocument (formed : graph.WellFormed)
    (sound : placement.Sound) (faithful : walks.Faithful graph) :
    ∃ after kept claimed,
      (placement.addDocument graph walks).outcome = .ok (after, kept) ∧
      after.Sound ∧ kept.Faithful graph ∧
      after.ids = placement.ids ++ claimed ∧
      after.groups = placement.groups ++ Group.started claimed ∧
      ∀ id, id ∈ claimed ↔
        graph.NeededByDocument id ∧ id ∉ placement.ids := by
  unfold addDocument
  by_cases rootless : graph.documentRoots.isEmpty = true
  · refine ⟨placement, walks, [], ?_, sound, faithful, by simp,
      by simp [Group.started], ?_⟩
    · rw [if_pos rootless]
      rfl
    · simp [Graph.NeededByDocument, List.isEmpty_iff.mp rootless]
  · obtain ⟨reached, kept, went, faithful', _, mem_reached⟩ :=
      Walks.exists_walkFromAll formed faithful fun _ => formed.roots_lt
    have mem_claimed (id : ComponentId) :
        id ∈ ascending (reached.filter fun id => !placement.isPlaced id) ↔
          graph.NeededByDocument id ∧ id ∉ placement.ids := by
      rw [mem_ascending, List.mem_filter, Bool.not_eq_true',
        ← Bool.not_eq_true, sound.isPlaced_iff, mem_reached]
      rfl
    obtain ⟨after, pushed, afterSound, ids, groups⟩ :=
      exists_push_ofIds sound (ascending_nodup _)
        fun id found => ((mem_claimed id).mp found).2
    refine ⟨after, kept, _, ?_, afterSound, faithful', ids, groups, mem_claimed⟩
    rw [if_neg rootless, Planning.outcome_bind_of_ok went]
    show (Planning.note _ >>= _).outcome = _
    rw [Planning.outcome_bind_of_ok rfl]
    exact Planning.outcome_bind_of_ok pushed _

/-- Where exactly the claimed components have a group, the roots of the last
tier are the unclaimed ones. -/
theorem mem_unclaimedRoots {bundles : List (List String)}
    (sound : placement.Sound)
    (claimed : ∀ id, id ∈ placement.ids ↔ graph.Claimed bundles id)
    {id : ComponentId} :
    id ∈ unclaimedRoots graph placement ↔ graph.UnclaimedRoot bundles id := by
  rw [unclaimedRoots, List.mem_filter, Graph.mem_ids, Bool.and_eq_true,
    Bool.not_eq_true', Bool.not_eq_true', ← Bool.not_eq_true (isPlaced _ _),
    sound.isPlaced_iff, claimed]
  rfl

/-- Placing what can be reached from roots has a result, reached by placing the
components of one residue. -/
theorem exists_addShared (formed : graph.WellFormed) (sound : placement.Sound)
    (faithful : walks.Faithful graph) {roots : List ComponentId}
    (known : ∀ id ∈ roots, id < graph.size) :
    ∃ after kept members,
      (placement.addShared graph walks roots).outcome = .ok (after, kept) ∧
      after.Sound ∧ kept.Faithful graph ∧ members.Nodup ∧
      (∀ id, id ∈ members ↔
        (∃ root ∈ roots, graph.Reaches root id) ∧ id ∉ placement.ids) ∧
      Steps (Residue.ofMembers graph members) placement after ∧
      ∀ id ∈ members, id ∈ after.ids := by
  obtain ⟨reached, kept, went, faithful', distinct, mem_reached⟩ :=
    Walks.exists_walkFromAll formed faithful known
  have distinct' := distinct.filter fun id => !placement.isPlaced id
  obtain ⟨after, added, afterSound, steps, all⟩ :=
    exists_addResidue (Residue.wellFormed_ofMembers formed distinct') sound
      (List.Subset.refl _)
  refine ⟨after, kept, _, ?_, afterSound, faithful', distinct', fun id => ?_,
    steps, fun id among => ?_⟩
  · rw [addShared, Planning.outcome_bind_of_ok went]
    show (Planning.note _ >>= _).outcome = _
    rw [Planning.outcome_bind_of_ok rfl]
    exact Planning.outcome_bind_of_ok added _
  · rw [List.mem_filter, Bool.not_eq_true', ← Bool.not_eq_true,
      sound.isPlaced_iff, mem_reached]
  · rw [← Residue.ids_ofMembers graph (List.filter _ reached)] at among
    obtain ⟨node, found, rfl⟩ := List.mem_map.mp among
    exact all node found

end Placement

/-! ### A run of the tiers -/

/-- A run of the three tiers: the placements that they reach one after the
other, and what these hold. -/
structure TierRun (graph : Graph) (bundles : List (List String))
    (walks : Walks) where
  bundled : Placement
  documented : Placement
  shared : Placement
  kept : Walks
  last : Walks
  /-- What the root document claims. -/
  claimed : List ComponentId
  /-- What is left to the last tier. -/
  members : List ComponentId
  outcome_bundles :
    (Placement.addBundles {} graph bundles).outcome = .ok bundled
  outcome_document :
    (bundled.addDocument graph walks).outcome = .ok (documented, kept)
  outcome_shared :
    (documented.addShared graph kept
      (unclaimedRoots graph documented)).outcome = .ok (shared, last)
  sound : shared.Sound
  faithful : last.Faithful graph
  none_empty : [] ∉ bundled.groups
  owned : ∀ group ∈ bundled.groups, ∃ index,
    Group.Holds group (graph.ClaimedBy bundles index)
  owns : ∀ index id, graph.ClaimedBy bundles index id →
    ∃ group ∈ bundled.groups,
      Group.Holds group (graph.ClaimedBy bundles index)
  document_groups : documented.groups = bundled.groups ++ Group.started claimed
  mem_claimed : ∀ id, id ∈ claimed ↔ graph.Documented bundles id
  mem_documented : ∀ id, id ∈ documented.ids ↔ graph.Claimed bundles id
  distinct : members.Nodup
  mem_members : ∀ id, id ∈ members ↔ graph.InResidue bundles id
  steps : Placement.Steps (Residue.ofMembers graph members) documented shared
  all_placed : ∀ id ∈ members, id ∈ shared.ids

/-- The tiers have a run on every graph. -/
theorem exists_tierRun {graph : Graph} (formed : graph.WellFormed)
    (bundles : List (List String)) {walks : Walks}
    (faithful : walks.Faithful graph) :
    Nonempty (TierRun graph bundles walks) := by
  obtain ⟨bundled, placed_bundles, bundledSound, none_empty, owned, owns,
    mem_bundled⟩ := Placement.exists_addBundles_first graph bundles
  obtain ⟨documented, kept, claimed, placed_document, documentedSound,
    kept_faithful, ids, document_groups, mem_claimed⟩ :=
    Placement.exists_addDocument formed bundledSound faithful
  have mem_documented (id : ComponentId) :
      id ∈ documented.ids ↔ graph.Claimed bundles id := by
    rw [ids, List.mem_append, mem_bundled, mem_claimed, mem_bundled]
    unfold Graph.Claimed
    tauto
  have mem_roots {id : ComponentId} :
      id ∈ unclaimedRoots graph documented ↔ graph.UnclaimedRoot bundles id :=
    Placement.mem_unclaimedRoots documentedSound mem_documented
  obtain ⟨shared, last, members, placed_shared, sharedSound, last_faithful,
    distinct, mem_members, steps, all_placed⟩ :=
    Placement.exists_addShared formed documentedSound kept_faithful
      fun id among => (mem_roots.mp among).1
  refine ⟨{
    bundled, documented, shared, kept, last, claimed, members
    outcome_bundles := placed_bundles
    outcome_document := placed_document
    outcome_shared := placed_shared
    sound := sharedSound
    faithful := last_faithful
    none_empty, owned, owns, document_groups, distinct, steps, all_placed,
    mem_documented
    mem_claimed := fun id => ?_
    mem_members := fun id => ?_ }⟩
  · rw [mem_claimed, mem_bundled, Graph.Documented, and_comm]
  · rw [mem_members, mem_documented, Graph.InResidue, and_comm]
    simp only [mem_roots]

namespace TierRun

variable {graph : Graph} {bundles : List (List String)} {walks : Walks}

/-- The groups of the graph are those that a run ends with. -/
theorem outcome_planGroups (run : TierRun graph bundles walks) :
    (planGroups graph bundles walks).outcome =
      .ok (run.shared.sortedGroups, run.last) := by
  rw [planGroups, Planning.outcome_bind_of_ok run.outcome_bundles]
  show (Planning.note _ >>= _).outcome = _
  rw [Planning.outcome_bind_of_ok rfl,
    Planning.outcome_bind_of_ok run.outcome_document]
  show (Planning.note _ >>= _).outcome = _
  rw [Planning.outcome_bind_of_ok rfl,
    Planning.outcome_bind_of_ok run.outcome_shared]
  rfl

/-- The group of the root document holds what the root document claims. -/
theorem holds_claimed (run : TierRun graph bundles walks) :
    Group.Holds (Group.ofIds run.claimed) (graph.Documented bundles) :=
  (Group.holds_ofIds run.claimed).congr run.mem_claimed

/-- A group of the first two tiers is a bundle's or the root document's. -/
theorem holds_of_mem_documented (run : TierRun graph bundles walks)
    {group : Group} (among : group ∈ run.documented.groups) :
    (∃ index, Group.Holds group (graph.ClaimedBy bundles index)) ∨
      Group.Holds group (graph.Documented bundles) := by
  rw [run.document_groups, List.mem_append] at among
  rcases among with among | among
  · exact Or.inl (run.owned group among)
  · rw [(Group.mem_started.mp among).2]
    exact Or.inr run.holds_claimed

/-- What is left to the last tier, with what it needs of it. -/
def residue (run : TierRun graph bundles walks) : Residue :=
  Residue.ofMembers graph run.members

theorem residue_wellFormed (formed : graph.WellFormed)
    (run : TierRun graph bundles walks) : run.residue.WellFormed :=
  Residue.wellFormed_ofMembers formed run.distinct

theorem mem_ids_residue (run : TierRun graph bundles walks)
    {id : ComponentId} :
    id ∈ run.residue.ids ↔ graph.InResidue bundles id := by
  rw [residue, Residue.ids_ofMembers, run.mem_members]

/-- Nothing of the residue has a group before the last tier. -/
theorem residue_apart (run : TierRun graph bundles walks) :
    ∀ id ∈ run.residue.ids, id ∉ run.documented.ids := by
  intro id among placed
  exact (run.mem_ids_residue.mp among).1 ((run.mem_documented id).mp placed)

/-- The root document changes no group of a bundle. -/
theorem bundled_prefix (run : TierRun graph bundles walks) :
    run.bundled.groups <+: run.documented.groups := by
  rw [run.document_groups]
  exact List.prefix_append _ _

/-- The last tier changes no group of a bundle or of the root document. -/
theorem documented_prefix (formed : graph.WellFormed)
    (run : TierRun graph bundles walks) :
    run.documented.groups <+: run.shared.groups :=
  run.steps.prefix_groups (run.residue_wellFormed formed) run.residue_apart

theorem none_empty_documented (run : TierRun graph bundles walks) :
    [] ∉ run.documented.groups := by
  rw [run.document_groups, List.mem_append, not_or]
  exact ⟨run.none_empty, Group.nil_not_mem_started run.claimed⟩

theorem none_empty_shared (formed : graph.WellFormed)
    (run : TierRun graph bundles walks) : [] ∉ run.shared.groups :=
  run.steps.nil_not_mem (run.residue_wellFormed formed)
    run.none_empty_documented

/-- After the last tier, exactly what is claimed and what it was left have a
group. -/
theorem mem_ids_shared (formed : graph.WellFormed)
    (run : TierRun graph bundles walks) {id : ComponentId} :
    id ∈ run.shared.ids ↔
      graph.Claimed bundles id ∨ graph.InResidue bundles id := by
  have residue_formed := run.residue_wellFormed formed
  constructor
  · intro placed
    rcases run.steps.mem_ids_or residue_formed placed with before | among
    · exact Or.inl ((run.mem_documented id).mp before)
    · exact Or.inr (run.mem_ids_residue.mp among)
  · intro given
    rcases given with claimed | among
    · exact run.steps.ids_subset residue_formed
        ((run.mem_documented id).mpr claimed)
    · exact run.all_placed id ((run.mem_members id).mpr among)

end TierRun

end CodeSplit
