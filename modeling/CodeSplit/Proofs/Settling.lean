/-
Module: CodeSplit.Proofs.Settling
Purpose: the groups that the tiers end with, as a function of lists of groups
  alone, without a record of where each component is.
Main exports:
  Group.joinFirst, Residue.company, Residue.settle, Graph.settledGroups,
  arrange, TierRun.groups_settled, Graph.mem_idsOf_settledGroups,
  outcome_planGroups_settled
-/
import CodeSplit.Graph.Cycle
import CodeSplit.Proofs.Finished

namespace CodeSplit

/-!
The tiers look up where a component is by the index of its group.  What they do
can be said without indices: a component is placed together with some others,
its company, and whoever of these has no group yet joins the first group that
holds any of them, or else they start one.  In this form the groups of two
graphs can be compared.
-/

/-! ### Joining the first group that holds some component -/

namespace Group

/-- The components of groups. -/
def idsOf (groups : List Group) : List ComponentId :=
  groups.flatMap ids

/-- Some of the components are in the group. -/
def Holding (wanted : List ComponentId) (group : Group) : Prop :=
  ∃ id ∈ wanted, id ∈ ids group

instance (wanted : List ComponentId) (group : Group) :
    Decidable (Holding wanted group) :=
  inferInstanceAs (Decidable (∃ id ∈ wanted, id ∈ ids group))

/-- Members join the first group that holds some wanted component; where none
does, they start a group. -/
def joinFirst (wanted : List ComponentId) (joining : Group) :
    List Group → List Group
  | [] => [joining]
  | group :: rest =>
      if Holding wanted group then (group ++ joining) :: rest
      else group :: joinFirst wanted joining rest

/-- The members of a company without a group join the first group that holds
some of the company, or start one. -/
def settleTogether (company : Group) (groups : List Group) : List Group :=
  joinFirst (ids company)
    (company.filter fun member => member.id ∉ idsOf groups) groups

theorem joinFirst_of_none {wanted : List ComponentId} {joining : Group}
    {groups : List Group} (none : ∀ id ∈ wanted, id ∉ idsOf groups) :
    joinFirst wanted joining groups = groups ++ [joining] := by
  induction groups with
  | nil => rfl
  | cons group rest ih =>
      have apart : ¬ Holding wanted group := by
        intro given
        obtain ⟨id, among, found⟩ := given
        exact none id among (List.mem_append_left _ found)
      rw [joinFirst, if_neg apart, List.cons_append, ih fun id among found =>
        none id among (List.mem_append_right _ found)]

/-- Joining the first group that holds a wanted component changes the group at
the first index where there is one. -/
theorem joinFirst_eq_modify {wanted : List ComponentId} {joining : Group}
    {groups : List Group} {index : Nat} {home : Group}
    (at_index : groups[index]? = some home) (holding : Holding wanted home)
    (first : ∀ (earlier : Nat) (group : Group), groups[earlier]? = some group →
      Holding wanted group → index ≤ earlier) :
    joinFirst wanted joining groups =
      groups.modify index (· ++ joining) := by
  induction groups generalizing index with
  | nil => simp at at_index
  | cons group rest ih =>
      cases index with
      | zero =>
          obtain rfl : group = home := by simpa using at_index
          rw [joinFirst, if_pos holding, List.modify_zero_cons]
      | succ index =>
          have apart : ¬ Holding wanted group := by
            intro given
            exact Nat.not_succ_le_zero index (first 0 group rfl given)
          rw [joinFirst, if_neg apart, List.modify_succ_cons,
            ih (by simpa using at_index) fun earlier other at_earlier given =>
              Nat.le_of_succ_le_succ (first (earlier + 1) other
                (by simpa using at_earlier) given)]

/-- A property of groups is kept if the group of the joining members has it, and
every group that they can join. -/
theorem forall_joinFirst {property : Group → Prop}
    {wanted : List ComponentId} {joining : Group} {groups : List Group}
    (all : ∀ group ∈ groups, property group) (own : property joining)
    (joined : ∀ group ∈ groups, Holding wanted group →
      property (group ++ joining)) :
    ∀ group ∈ joinFirst wanted joining groups, property group := by
  induction groups with
  | nil => simpa [joinFirst] using own
  | cons group rest ih =>
      obtain ⟨here, others⟩ := List.forall_mem_cons.mp all
      rw [joinFirst]
      split
      · rename_i holding
        exact List.forall_mem_cons.mpr
          ⟨joined group List.mem_cons_self holding, others⟩
      · exact List.forall_mem_cons.mpr ⟨here, ih others fun other among =>
          joined other (List.mem_cons_of_mem _ among)⟩

end Group

/-! ### What the tiers do to groups -/

namespace Residue

/-- The members that a component without a group is placed together with, itself
among them. -/
def company (residue : Residue) (id : ComponentId) : Group :=
  match residue.dependentsOf id with
  | [] => [{ id := id }]
  | [parent] => [{ id := parent.id }, { id := id, dependents := [parent.id] }]
  | nodes => sharedMembers nodes

/-- Place a component, unless it has a group. -/
def settle (residue : Residue) (groups : List Group) (id : ComponentId) :
    List Group :=
  if id ∈ Group.idsOf groups then groups
  else Group.settleTogether (residue.company id) groups

variable {residue : Residue} {id : ComponentId}

theorem settle_of_placed {groups : List Group}
    (placed : id ∈ Group.idsOf groups) : residue.settle groups id = groups :=
  if_pos placed

theorem settle_of_free {groups : List Group}
    (free : id ∉ Group.idsOf groups) :
    residue.settle groups id =
      Group.settleTogether (residue.company id) groups :=
  if_neg free

theorem company_of_none (unneeded : residue.dependentsOf id = []) :
    residue.company id = [{ id := id }] := by
  rw [company, unneeded]

theorem company_of_one {parent : ResidueNode}
    (needed : residue.dependentsOf id = [parent]) :
    residue.company id =
      [{ id := parent.id }, { id := id, dependents := [parent.id] }] := by
  rw [company, needed]

theorem company_of_several
    (several : 2 ≤ (residue.dependentsOf id).length) :
    residue.company id = sharedMembers (residue.dependentsOf id) := by
  rw [company]
  match needed : residue.dependentsOf id with
  | [] => simp [needed] at several
  | [parent] => simp [needed] at several
  | _ :: _ :: _ => rfl

/-- A component is in its own company. -/
theorem mem_company_self : id ∈ Group.ids (residue.company id) := by
  unfold company
  split
  · simp
  · simp
  · rename_i none _
    exact mem_ids_sharedMembers_self none

end Residue

namespace Graph

variable (graph : Graph)

/-- What can be reached from components, in the order in which walks from each
of them in turn visit it first. -/
def reachedFrom (ids : List ComponentId) : List ComponentId :=
  ids.foldl (fun seen id => Walks.union seen (graph.reachable id)) []

/-- Give a bundle what it names and what has no group. -/
def settleBundle (groups : List Group) (bundle : List String) : List Group :=
  groups ++ Group.started (Walks.union []
    ((bundle.filterMap fun entry => graph.idOf? (normalizeTag entry)).filter
      (· ∉ Group.idsOf groups)))

/-- Give the bundles, in the order of placing, what they name. -/
def settleBundles (bundles : List (List String)) : List Group :=
  (Placement.orderBundles bundles).foldl
    (fun groups bundle => graph.settleBundle groups bundle.1) []

/-- Give the root document what it needs and what has no group. -/
def settleDocument (groups : List Group) : List Group :=
  groups ++ Group.started (ascending
    ((graph.reachedFrom graph.documentRoots).filter (· ∉ Group.idsOf groups)))

/-- The components of the application without a group. -/
def rootsBeside (groups : List Group) : List ComponentId :=
  graph.ids.filter fun id => !graph.isExternal id && id ∉ Group.idsOf groups

/-- What can be reached from the application and has no group. -/
def leftBeside (groups : List Group) : List ComponentId :=
  (graph.reachedFrom (graph.rootsBeside groups)).filter
    (· ∉ Group.idsOf groups)

/-- Place everything that is left. -/
def settleShared (groups : List Group) : List Group :=
  (graph.leftBeside groups).foldl
    (Residue.ofMembers graph (graph.leftBeside groups)).settle groups

/-- The groups of a graph, in the order in which they were started. -/
def settledGroups (bundles : List (List String)) : List Group :=
  graph.settleShared (graph.settleDocument (graph.settleBundles bundles))

end Graph

/-- Groups in order, with their members in order. -/
def arrange (groups : List Group) : List Group :=
  sortGroups ((groups.filter (!·.isEmpty)).map Group.sorted)

/-- Groups in order are the groups with members, each sorted. -/
theorem arrange_perm (groups : List Group) :
    (arrange groups).Perm
      ((groups.filter (!·.isEmpty)).map Group.sorted) :=
  sortGroups_perm _

theorem mem_arrange {groups : List Group} {group : Group} :
    group ∈ arrange groups ↔
      ∃ old ∈ groups, old ≠ [] ∧ Group.sorted old = group := by
  simp [(arrange_perm groups).mem_iff, and_assoc]

/-! ### Looking up the first group -/

namespace Placement

variable {graph : Graph} {placement : Placement} {residue : Residue}
variable {id : ComponentId}

/-- The components without a group are those that are in none. -/
theorem Sound.isPlaced_eq (sound : placement.Sound) (id : ComponentId) :
    placement.isPlaced id = decide (id ∈ Group.idsOf placement.groups) := by
  rw [Bool.eq_iff_iff, sound.isPlaced_iff, decide_eq_true_iff]
  rfl

theorem Sound.filter_unplaced (sound : placement.Sound)
    (ids : List ComponentId) :
    (ids.filter fun id => !placement.isPlaced id) =
      ids.filter (· ∉ Group.idsOf placement.groups) := by
  simp only [sound.isPlaced_eq, decide_not]

theorem Sound.unplaced_eq (sound : placement.Sound) (members : List Member) :
    placement.unplaced members =
      members.filter fun member =>
        member.id ∉ Group.idsOf placement.groups := by
  simp only [unplaced, sound.isPlaced_eq, decide_not]

/-- The first recorded index of some components is where joining finds their
first group. -/
theorem Sound.modify_eq_joinFirst (sound : placement.Sound)
    {wanted : List ComponentId} {index : Nat}
    (first : placement.firstGroupOf? wanted = some index) (joining : Group) :
    placement.groups.modify index (· ++ joining) =
      Group.joinFirst wanted joining placement.groups := by
  obtain ⟨among, least⟩ := List.min?_eq_some_iff.mp first
  obtain ⟨other, other_among, held⟩ := List.mem_filterMap.mp among
  obtain ⟨home, at_index, found⟩ := (sound.recorded other index).mp held
  refine (Group.joinFirst_eq_modify at_index ⟨other, other_among, found⟩
    ?_).symm
  intro earlier group at_earlier given
  obtain ⟨id, id_among, inside⟩ := given
  exact least earlier (List.mem_filterMap.mpr
    ⟨id, id_among, (sound.recorded id earlier).mpr ⟨group, at_earlier, inside⟩⟩)

/-! ### What a change does to the groups -/

theorem groups_of_add {index : Nat} {member : Member} {grown : Placement}
    (added : placement.add index member = .ok grown) :
    grown.groups = placement.groups.modify index (· ++ [member]) := by
  rw [add] at added
  split at added
  · cases added
  · split at added
    · obtain rfl := Except.ok.inj added
      rfl
    · cases added

theorem groups_of_addAll {index : Nat} {members : List Member}
    {grown : Placement}
    (added : placement.addAll index members = (grown, none)) :
    grown.groups = placement.groups.modify index (· ++ members) := by
  induction members generalizing placement with
  | nil =>
      obtain rfl := congrArg Prod.fst added
      simp only [addAll, List.append_nil]
      exact (List.modify_id index placement.groups).symm
  | cons member rest ih =>
      rw [addAll] at added
      split at added
      · simp at added
      · rename_i next joined
        rw [ih added, groups_of_add joined, List.modify_modify_eq]
        simp [Function.comp_def]

theorem groups_of_push {members : List Member} {grown : Placement}
    (some_member : members ≠ [])
    (pushed : placement.push members = (grown, none)) :
    grown.groups = placement.groups ++ [members] := by
  rw [push, if_neg (by simpa using some_member)] at pushed
  rw [groups_of_addAll pushed, Group.modify_last]
  rfl

theorem eq_of_settle {outcome : Placement × Option Fault} {after : Placement}
    (went : (Placement.settle outcome).outcome = .ok after) :
    outcome = (after, none) := by
  obtain ⟨grown, fault?⟩ := outcome
  cases fault? with
  | none =>
      obtain rfl := Except.ok.inj went
      rfl
  | some fault => cases went

/-! ### Steps of the last tier -/

/-- Members that have no group start one. -/
theorem Sound.settleTogether_of_none (sound : placement.Sound)
    {company : Group} (free : ∀ id ∈ Group.ids company, id ∉ placement.ids) :
    Group.settleTogether company placement.groups =
      placement.groups ++ [company] := by
  rw [Group.settleTogether, Group.joinFirst_of_none free,
    ← sound.unplaced_eq, unplaced_eq_self sound free]

/-- Members of which one has a group join the first group. -/
theorem Sound.settleTogether_of_first (sound : placement.Sound)
    {company : Group} {index : Nat}
    (first : placement.firstGroupOf? (Group.ids company) = some index) :
    Group.settleTogether company placement.groups =
      placement.groups.modify index (· ++ placement.unplaced company) := by
  rw [Group.settleTogether, ← sound.unplaced_eq,
    sound.modify_eq_joinFirst first]

/-- What several dependents share is settled together. -/
theorem groups_of_addCommon (sound : placement.Sound) {after : Placement}
    (some_node : residue.dependentsOf id ≠ [])
    (went : (placement.addCommon graph (residue.dependentsOf id)).outcome =
      .ok after) :
    after.groups =
      Group.settleTogether (Residue.sharedMembers (residue.dependentsOf id))
        placement.groups := by
  cases first : placement.firstGroupOf?
      (Residue.commonDependencies (residue.dependentsOf id)) with
  | none =>
      have free := firstGroupOf?_none sound first
      rw [outcome_addCommon_none first] at went
      rw [← Residue.ids_sharedMembers] at free
      rw [unplaced_eq_self sound free] at went
      rw [sound.settleTogether_of_none free, groups_of_push
        (Residue.sharedMembers_ne_nil some_node) (eq_of_settle went)]
  | some index =>
      rw [outcome_addCommon_some first] at went
      rw [← Residue.ids_sharedMembers] at first
      rw [sound.settleTogether_of_first first,
        groups_of_addAll (eq_of_settle went)]

/-- A component without a group is settled together with its company. -/
theorem groups_of_addByDependents (sound : placement.Sound)
    (free : id ∉ placement.ids) {after : Placement}
    (went : (placement.addByDependents graph id
      (residue.dependentsOf id)).outcome = .ok after) :
    after.groups =
      Group.settleTogether (residue.company id) placement.groups := by
  unfold Residue.company
  cases needed : residue.dependentsOf id with
  | nil =>
      rw [needed, addByDependents, Planning.outcome_bind_of_ok rfl] at went
      rw [groups_of_push (by simp) (eq_of_settle went),
        sound.settleTogether_of_none (by simpa using free)]
  | cons parent others =>
      cases others with
      | nil =>
          rw [needed, addByDependents, Planning.outcome_bind_of_ok rfl] at went
          have unknown := sound.groupOf?_eq_none_iff.mpr free
          -- The component has no group, so only its parent can lead to one.
          cases held : placement.groupOf? parent.id with
          | none =>
              simp only [held] at went
              have parentFree := sound.groupOf?_eq_none_iff.mp held
              rw [groups_of_push (by simp) (eq_of_settle went),
                sound.settleTogether_of_none
                  (by simpa using ⟨parentFree, free⟩)]
          | some index =>
              simp only [held] at went
              have first : placement.firstGroupOf? (Group.ids
                  [{ id := parent.id },
                    { id := id, dependents := [parent.id] }]) =
                  some index := by
                simp [firstGroupOf?, held, unknown]
              rw [groups_of_add went, sound.settleTogether_of_first first]
              simp [unplaced, isPlaced, held, unknown]
      | cons second rest =>
          have some_node : residue.dependentsOf id ≠ [] := by simp [needed]
          rw [needed] at went
          have shared :
              (placement.addCommon graph (residue.dependentsOf id)).outcome =
                .ok after := by
            rw [needed]
            exact went
          rw [groups_of_addCommon sound some_node shared, needed]

/-- Placing members of a residue settles them one after the other. -/
theorem exists_addResidue_settled (graph : Graph) (formed : residue.WellFormed)
    (sound : placement.Sound) (nodes : Residue) :
    ∃ after, (placement.addResidue graph residue nodes).outcome = .ok after ∧
      after.groups =
        (Residue.ids nodes).foldl residue.settle placement.groups := by
  induction nodes generalizing placement with
  | nil => exact ⟨placement, rfl, rfl⟩
  | cons node rest ih =>
      rw [addResidue, Residue.ids, List.map_cons, List.foldl_cons]
      by_cases placed : placement.isPlaced node.id = true
      · rw [if_pos placed,
          Residue.settle_of_placed (sound.isPlaced_iff.mp placed)]
        exact ih sound
      · have free := mt sound.isPlaced_iff.mpr placed
        obtain ⟨next, stepped, nextSound, _⟩ :=
          exists_places graph formed sound free
        rw [if_neg placed, Planning.outcome_bind_of_ok stepped,
          Residue.settle_of_free free,
          ← groups_of_addByDependents sound free stepped]
        exact ih nextSound

end Placement

/-! ### Walks in their order -/

namespace Walks

variable {graph : Graph}

theorem closureOf_eq_ok_reachable (formed : graph.WellFormed)
    {id : ComponentId} (known : id < graph.size) :
    graph.closureOf [id] = .ok (graph.reachable id) := by
  obtain ⟨order, went, _⟩ :=
    Graph.exists_closureOf formed [id] (by simpa using known)
  rw [Graph.reachable, went]

/-- The walk from a component is what can be reached from it, in order, whether
it is remembered or taken now. -/
theorem outcome_walkFrom (formed : graph.WellFormed) {walks : Walks}
    (faithful : walks.Faithful graph) {id : ComponentId}
    (known : id < graph.size) :
    ∃ kept, kept.Faithful graph ∧
      (walks.walkFrom graph id).outcome = .ok (graph.reachable id, kept) := by
  obtain ⟨order, kept, went, faithful', _⟩ :=
    exists_walkFrom formed faithful known
  refine ⟨kept, faithful', ?_⟩
  have taken := closureOf_eq_ok_reachable formed known
  rw [went]
  rw [walkFrom] at went
  split at went
  · rename_i remembered held
    -- A remembered walk is the walk that would be taken now.
    have same := (faithful id remembered held).2
    rw [taken] at same
    obtain rfl := Except.ok.inj same
    rw [← (Prod.mk.inj (Except.ok.inj went)).1]
  · rw [Planning.outcome_bind_of_ok taken] at went
    rw [← (Prod.mk.inj (Except.ok.inj went)).1]

theorem outcome_walkFromAll (formed : graph.WellFormed) {walks : Walks}
    (faithful : walks.Faithful graph) {ids : List ComponentId}
    (known : ∀ id ∈ ids, id < graph.size) :
    ∃ kept, kept.Faithful graph ∧
      (walks.walkFromAll graph ids).outcome =
        .ok (graph.reachedFrom ids, kept) := by
  unfold walkFromAll Graph.reachedFrom
  generalize ([] : List ComponentId) = reached
  induction ids generalizing walks reached with
  | nil => exact ⟨walks, faithful, rfl⟩
  | cons id rest ih =>
      obtain ⟨next, faithful', went⟩ :=
        outcome_walkFrom formed faithful (known id List.mem_cons_self)
      rw [walkFromAllOnto, Planning.outcome_bind_of_ok went]
      exact ih faithful' (fun other among =>
        known other (List.mem_cons_of_mem _ among)) _

/-- From components of the graph, what can be reached from any of them is
reached, each once. -/
theorem reachedFrom_spec (formed : graph.WellFormed)
    {ids : List ComponentId} (known : ∀ id ∈ ids, id < graph.size) :
    (graph.reachedFrom ids).Nodup ∧
      ∀ other, other ∈ graph.reachedFrom ids ↔
        ∃ id ∈ ids, graph.Reaches id other := by
  obtain ⟨_, _, went⟩ := outcome_walkFromAll formed (faithful_nil graph) known
  obtain ⟨_, _, went', _, distinct, members⟩ :=
    exists_walkFromAll formed (faithful_nil graph) known
  rw [went] at went'
  obtain ⟨rfl, rfl⟩ := Prod.mk.inj (Except.ok.inj went')
  exact ⟨distinct, members⟩

end Walks

/-! ### The tiers -/

namespace Placement

variable {graph : Graph} {placement : Placement} {walks : Walks}

theorem exists_addOrderedBundles_settled (graph : Graph)
    (sound : placement.Sound) (ordered : List (List String × Nat)) :
    ∃ after,
      (placement.addOrderedBundles graph ordered).outcome = .ok after ∧
      after.Sound ∧
      after.groups = ordered.foldl
        (fun groups bundle => graph.settleBundle groups bundle.1)
        placement.groups := by
  induction ordered generalizing placement with
  | nil => exact ⟨placement, rfl, sound, rfl⟩
  | cons head rest ih =>
      obtain ⟨claimed, next, claims, pushed, nextSound, groups, _⟩ :=
        exists_addBundle graph sound head.1 head.2
      obtain ⟨after, went, afterSound, settled⟩ := ih nextSound
      refine ⟨after, ?_, afterSound, ?_⟩
      · rw [addOrderedBundles, Planning.outcome_bind_of_ok claims]
        exact (Planning.outcome_bind_of_ok pushed _).trans went
      · rw [outcome_claim, sound.filter_unplaced] at claims
        rw [settled, groups, ← Except.ok.inj claims]
        rfl

theorem exists_addDocument_settled (formed : graph.WellFormed)
    (sound : placement.Sound) (faithful : walks.Faithful graph) :
    ∃ after kept,
      (placement.addDocument graph walks).outcome = .ok (after, kept) ∧
      after.Sound ∧ kept.Faithful graph ∧
      after.groups = graph.settleDocument placement.groups := by
  unfold addDocument Graph.settleDocument
  by_cases rootless : graph.documentRoots.isEmpty = true
  · refine ⟨placement, walks, ?_, sound, faithful, ?_⟩
    · rw [if_pos rootless]
      rfl
    · simp [List.isEmpty_iff.mp rootless, Graph.reachedFrom, ascending,
        Group.started]
  · obtain ⟨kept, faithful', went⟩ :=
      Walks.outcome_walkFromAll formed faithful fun _ => formed.roots_lt
    have free : ∀ id ∈ ascending ((graph.reachedFrom graph.documentRoots).filter
        fun id => !placement.isPlaced id), id ∉ placement.ids := by
      intro id among
      rw [mem_ascending, sound.filter_unplaced] at among
      exact of_decide_eq_true (List.mem_filter.mp among).2
    obtain ⟨after, pushed, afterSound, _, groups⟩ :=
      exists_push_ofIds sound (ascending_nodup _) free
    refine ⟨after, kept, ?_, afterSound, faithful', ?_⟩
    · rw [if_neg rootless, Planning.outcome_bind_of_ok went]
      show (Planning.note _ >>= _).outcome = _
      rw [Planning.outcome_bind_of_ok rfl]
      exact Planning.outcome_bind_of_ok pushed _
    · rw [groups, sound.filter_unplaced]

theorem exists_addShared_settled (formed : graph.WellFormed)
    (sound : placement.Sound) (faithful : walks.Faithful graph) :
    ∃ after kept,
      (placement.addShared graph walks
        (unclaimedRoots graph placement)).outcome = .ok (after, kept) ∧
      after.groups = graph.settleShared placement.groups := by
  have roots : unclaimedRoots graph placement =
      graph.rootsBeside placement.groups := by
    simp only [unclaimedRoots, Graph.rootsBeside, sound.isPlaced_eq,
      decide_not]
  have known : ∀ id ∈ graph.rootsBeside placement.groups, id < graph.size := by
    intro id among
    exact Graph.mem_ids.mp (List.mem_filter.mp among).1
  obtain ⟨kept, _, went⟩ := Walks.outcome_walkFromAll formed faithful known
  have distinct : (graph.leftBeside placement.groups).Nodup :=
    (Walks.reachedFrom_spec formed known).1.filter _
  obtain ⟨after, added, groups⟩ :=
    exists_addResidue_settled graph
      (Residue.wellFormed_ofMembers formed distinct) sound
      (Residue.ofMembers graph (graph.leftBeside placement.groups))
  refine ⟨after, kept, ?_, ?_⟩
  · rw [addShared, roots, Planning.outcome_bind_of_ok went]
    show (Planning.note _ >>= _).outcome = _
    rw [Planning.outcome_bind_of_ok rfl, sound.filter_unplaced]
    exact Planning.outcome_bind_of_ok added _
  · rw [groups, Residue.ids_ofMembers]
    rfl

end Placement

/-- A run has the settled groups, before the last tier and at the end. -/
theorem TierRun.groups_settled {graph : Graph} (formed : graph.WellFormed)
    {bundles : List (List String)} {walks : Walks}
    (faithful : walks.Faithful graph) (run : TierRun graph bundles walks) :
    run.documented.groups =
        graph.settleDocument (graph.settleBundles bundles) ∧
      run.shared.groups = graph.settledGroups bundles := by
  obtain ⟨bundled, went, bundledSound, bundledGroups⟩ :=
    Placement.exists_addOrderedBundles_settled graph Placement.sound_empty
      (Placement.orderBundles bundles)
  obtain rfl := Except.ok.inj (run.outcome_bundles.symm.trans went)
  obtain ⟨documented, kept, went', documentedSound, faithful', groups⟩ :=
    Placement.exists_addDocument_settled formed bundledSound faithful
  obtain ⟨rfl, rfl⟩ := Prod.mk.inj
    (Except.ok.inj (run.outcome_document.symm.trans went'))
  obtain ⟨shared, last, went'', sharedGroups⟩ :=
    Placement.exists_addShared_settled formed documentedSound faithful'
  obtain ⟨rfl, -⟩ := Prod.mk.inj
    (Except.ok.inj (run.outcome_shared.symm.trans went''))
  have settled : run.documented.groups =
      graph.settleDocument (graph.settleBundles bundles) := by
    rw [groups, bundledGroups]
    rfl
  refine ⟨settled, ?_⟩
  rw [sharedGroups, settled]
  rfl

/-- A run has the settled groups in order. -/
theorem TierRun.groups_eq_arrange {graph : Graph} (formed : graph.WellFormed)
    {bundles : List (List String)} {walks : Walks}
    (faithful : walks.Faithful graph) (run : TierRun graph bundles walks) :
    run.groups = arrange (graph.settledGroups bundles) := by
  rw [groups, Placement.sortedGroups, (run.groups_settled formed faithful).2,
    arrange]

namespace Graph

variable {graph : Graph} {bundles : List (List String)} {id : ComponentId}

/-- The settled groups hold exactly what is claimed or left to the last tier. -/
theorem mem_idsOf_settledGroups (formed : graph.WellFormed) :
    id ∈ Group.idsOf (graph.settledGroups bundles) ↔
      graph.Claimed bundles id ∨ graph.InResidue bundles id := by
  have faithful := Walks.faithful_nil graph
  obtain ⟨run⟩ := exists_tierRun formed bundles faithful
  rw [← (run.groups_settled formed faithful).2]
  exact run.mem_ids_shared formed

/-- Before the last tier, exactly what is claimed has a group. -/
theorem mem_idsOf_settleDocument (formed : graph.WellFormed) :
    id ∈ Group.idsOf (graph.settleDocument (graph.settleBundles bundles)) ↔
      graph.Claimed bundles id := by
  have faithful := Walks.faithful_nil graph
  obtain ⟨run⟩ := exists_tierRun formed bundles faithful
  rw [← (run.groups_settled formed faithful).1]
  exact run.mem_documented id

/-- The roots of the last tier are the unclaimed ones. -/
theorem mem_rootsBeside_settleDocument (formed : graph.WellFormed) :
    id ∈ graph.rootsBeside
        (graph.settleDocument (graph.settleBundles bundles)) ↔
      graph.UnclaimedRoot bundles id := by
  rw [rootsBeside, List.mem_filter, mem_ids, Bool.and_eq_true,
    Bool.not_eq_true', decide_eq_true_iff, mem_idsOf_settleDocument formed]
  rfl

/-- What is left to the last tier can be reached from its roots. -/
theorem mem_leftBeside_settleDocument (formed : graph.WellFormed) :
    id ∈ graph.leftBeside
        (graph.settleDocument (graph.settleBundles bundles)) ↔
      graph.InResidue bundles id := by
  have known : ∀ root ∈ graph.rootsBeside
      (graph.settleDocument (graph.settleBundles bundles)),
      root < graph.size := fun root among =>
    ((mem_rootsBeside_settleDocument formed).mp among).1
  rw [leftBeside, List.mem_filter, decide_eq_true_iff,
    mem_idsOf_settleDocument formed, (Walks.reachedFrom_spec formed known).2,
    InResidue, and_comm]
  simp only [mem_rootsBeside_settleDocument formed]

end Graph

/-- The groups of a graph are the settled ones, in order. -/
theorem outcome_planGroups_settled {graph : Graph} (formed : graph.WellFormed)
    (bundles : List (List String)) {walks : Walks}
    (faithful : walks.Faithful graph) :
    ∃ kept, (planGroups graph bundles walks).outcome =
      .ok (arrange (graph.settledGroups bundles), kept) := by
  obtain ⟨run⟩ := exists_tierRun formed bundles faithful
  refine ⟨run.last, ?_⟩
  rw [← run.groups_eq_arrange formed faithful]
  exact run.outcome_planGroups

end CodeSplit
