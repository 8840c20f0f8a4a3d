/-
Module: CodeSplit.Proofs.Residue
Purpose: how the components that no bundle and no document claims are placed,
  one after the other.
Main exports:
  Residue.WellFormed, Placement.Places, Placement.exists_places,
  Placement.exists_addResidue
-/
import CodeSplit.Group.Shared
import CodeSplit.Proofs.Placement
import CodeSplit.Proofs.Reach

namespace CodeSplit

/-! ### The residue -/

namespace Residue

/-- The components in a residue. -/
def ids (residue : Residue) : List ComponentId :=
  residue.map (·.id)

/-- What holds of every residue of a graph: components are there once, need
nothing twice, and do not need themselves. -/
structure WellFormed (residue : Residue) : Prop where
  distinct : residue.ids.Nodup
  dependencies_distinct : ∀ node ∈ residue, node.dependencies.Nodup
  inside : ∀ node ∈ residue, ∀ id ∈ node.dependencies, id ∈ residue.ids
  irreflexive : ∀ node ∈ residue, node.id ∉ node.dependencies

@[simp] theorem ids_ofMembers (graph : Graph) (members : List ComponentId) :
    ids (ofMembers graph members) = members := by
  simp [ids, ofMembers, Function.comp_def]

/-- The residue of distinct members is well-formed. -/
theorem wellFormed_ofMembers {graph : Graph} (formed : graph.WellFormed)
    {members : List ComponentId} (distinct : members.Nodup) :
    WellFormed (ofMembers graph members) where
  distinct := by rwa [ids_ofMembers]
  dependencies_distinct node found := by
    obtain ⟨id, _, rfl⟩ := List.mem_map.mp found
    exact ((formed.dependencies_ascending id).imp Nat.ne_of_lt).filter _
  inside node found other needed := by
    obtain ⟨id, _, rfl⟩ := List.mem_map.mp found
    rw [ids_ofMembers]
    simpa using (List.mem_filter.mp needed).2
  irreflexive node found needed := by
    obtain ⟨id, _, rfl⟩ := List.mem_map.mp found
    exact formed.dependencies_ne (List.mem_filter.mp needed).1 rfl

variable {residue : Residue}

theorem mem_dependentsOf {id : ComponentId} {node : ResidueNode} :
    node ∈ residue.dependentsOf id ↔
      node ∈ residue ∧ id ∈ node.dependencies := by
  simp [dependentsOf]

/-- A dependent is another component than the one that it needs. -/
theorem WellFormed.dependent_ne (formed : residue.WellFormed)
    {id : ComponentId} {node : ResidueNode}
    (needs : node ∈ residue.dependentsOf id) : node.id ≠ id := by
  rintro rfl
  have found := mem_dependentsOf.mp needs
  exact formed.irreflexive node found.1 found.2

theorem mem_ids_of_mem_dependentsOf {id : ComponentId} {node : ResidueNode}
    (needs : node ∈ residue.dependentsOf id) : node.id ∈ residue.ids :=
  List.mem_map_of_mem (mem_dependentsOf.mp needs).1

/-! ### What several members share -/

@[simp] theorem ids_sharedMembers (nodes : Residue) :
    Group.ids (sharedMembers nodes) = commonDependencies nodes := by
  simp [Group.ids, sharedMembers, Function.comp_def]

theorem ne_nil_of_several {nodes : Residue} (several : 2 ≤ nodes.length) :
    nodes ≠ [] :=
  List.ne_nil_of_length_pos (by omega)

/-- What nodes share is what each of them needs. -/
theorem mem_commonDependencies {nodes : Residue} (some_node : nodes ≠ [])
    {id : ComponentId} :
    id ∈ commonDependencies nodes ↔ ∀ node ∈ nodes, id ∈ node.dependencies := by
  cases nodes with
  | nil => exact absurd rfl some_node
  | cons node others => simp [commonDependencies]

/-- What the dependents of a component share is in the residue. -/
theorem WellFormed.mem_ids_of_mem_common (formed : residue.WellFormed)
    {id other : ComponentId} (some_node : residue.dependentsOf id ≠ [])
    (shared : other ∈ commonDependencies (residue.dependentsOf id)) :
    other ∈ residue.ids := by
  obtain ⟨node, needs⟩ := List.exists_mem_of_ne_nil _ some_node
  exact formed.inside node (mem_dependentsOf.mp needs).1 other
    ((mem_commonDependencies some_node).mp shared node needs)

/-- The dependents of a component share that component. -/
theorem mem_ids_sharedMembers_self {id : ComponentId}
    (some_node : residue.dependentsOf id ≠ []) :
    id ∈ Group.ids (sharedMembers (residue.dependentsOf id)) := by
  rw [ids_sharedMembers, mem_commonDependencies some_node]
  exact fun _ found => (mem_dependentsOf.mp found).2

theorem sharedMembers_ne_nil {id : ComponentId}
    (some_node : residue.dependentsOf id ≠ []) :
    sharedMembers (residue.dependentsOf id) ≠ [] := by
  intro none
  simpa [none] using mem_ids_sharedMembers_self some_node

/-- Nodes share nothing twice. -/
theorem nodup_commonDependencies (formed : residue.WellFormed)
    {nodes : Residue} (among : nodes ⊆ residue) :
    (commonDependencies nodes).Nodup := by
  cases nodes with
  | nil => exact List.nodup_nil
  | cons node others =>
      have found := among List.mem_cons_self
      exact (formed.dependencies_distinct node found).filter _

/-- Whatever the dependents of a component share has at least as many dependents
as that component. -/
theorem length_dependentsOf_le {id other : ComponentId}
    (some_node : residue.dependentsOf id ≠ [])
    (shared : other ∈ commonDependencies (residue.dependentsOf id)) :
    (residue.dependentsOf id).length ≤
      (residue.dependentsOf other).length := by
  have all := (mem_commonDependencies some_node).mp shared
  refine List.Sublist.length_le (List.sublist_filter_iff.mpr ?_)
  refine ⟨_, List.filter_sublist, (List.filter_eq_self.mpr ?_).symm⟩
  intro node found
  simpa using all node found

end Residue

/-! ### One step -/

namespace Placement

/-- The members whose components have no group. -/
def unplaced (placement : Placement) (members : List Member) : List Member :=
  members.filter fun member => !placement.isPlaced member.id

theorem mem_unplaced {placement : Placement} (sound : placement.Sound)
    {members : List Member} {member : Member} :
    member ∈ placement.unplaced members ↔
      member ∈ members ∧ member.id ∉ placement.ids := by
  rw [unplaced, List.mem_filter, Bool.not_eq_true', ← Bool.not_eq_true,
    sound.isPlaced_iff]

theorem nodup_ids_unplaced {placement : Placement} {members : List Member}
    (distinct : (Group.ids members).Nodup) :
    (Group.ids (placement.unplaced members)).Nodup :=
  distinct.sublist (List.Sublist.map Member.id List.filter_sublist)

/-- Members without groups are all unplaced. -/
theorem unplaced_eq_self {placement : Placement} (sound : placement.Sound)
    {members : List Member}
    (free : ∀ id ∈ Group.ids members, id ∉ placement.ids) :
    placement.unplaced members = members := by
  rw [unplaced, List.filter_eq_self]
  intro member found
  rw [Bool.not_eq_true', ← Bool.not_eq_true, sound.isPlaced_iff]
  exact free member.id (List.mem_map_of_mem found)

/-- How a component of the residue that has no group changes the groups.  The
constructors are the ways to place it; no other change is ever made. -/
inductive Places (residue : Residue) (before : Placement) (id : ComponentId) :
    Placement → Prop where
  /-- Nothing needs it: it is a group of its own. -/
  | alone {after : Placement}
      (unneeded : residue.dependentsOf id = [])
      (groups : after.groups = before.groups ++ [[{ id := id }]]) :
      Places residue before id after
  /-- Its only dependent has a group, which it joins. -/
  | joins {after : Placement} {parent : ResidueNode} {index : Nat}
      (needed : residue.dependentsOf id = [parent])
      (held : before.groupOf? parent.id = some index)
      (groups : after.groups = before.groups.modify index
        (· ++ [{ id := id, dependents := [parent.id] }])) :
      Places residue before id after
  /-- Its only dependent has no group, and the two start one. -/
  | founds {after : Placement} {parent : ResidueNode}
      (needed : residue.dependentsOf id = [parent])
      (free : parent.id ∉ before.ids)
      (groups : after.groups = before.groups ++
        [[{ id := parent.id }, { id := id, dependents := [parent.id] }]]) :
      Places residue before id after
  /-- Something that its dependents share has a group, which the rest of it
  joins. -/
  | merges {after : Placement} {other : ComponentId} {index : Nat}
      (several : 2 ≤ (residue.dependentsOf id).length)
      (shared :
        other ∈ Residue.commonDependencies (residue.dependentsOf id))
      (held : before.groupOf? other = some index)
      (groups : after.groups = before.groups.modify index
        (· ++ before.unplaced
          (Residue.sharedMembers (residue.dependentsOf id)))) :
      Places residue before id after
  /-- Nothing that its dependents share has a group, and all of it starts
  one. -/
  | shares {after : Placement}
      (several : 2 ≤ (residue.dependentsOf id).length)
      (free : ∀ other ∈
        Residue.commonDependencies (residue.dependentsOf id),
        other ∉ before.ids)
      (groups : after.groups = before.groups ++
        [Residue.sharedMembers (residue.dependentsOf id)]) :
      Places residue before id after

variable {residue : Residue} {graph : Graph} {before : Placement}
variable {id : ComponentId}

theorem firstGroupOf?_some {ids : List ComponentId} {index : Nat}
    (first : before.firstGroupOf? ids = some index) :
    ∃ other ∈ ids, before.groupOf? other = some index := by
  have among := List.min?_mem first
  exact List.mem_filterMap.mp among

theorem firstGroupOf?_none (sound : before.Sound) {ids : List ComponentId}
    (first : before.firstGroupOf? ids = none) :
    ∀ other ∈ ids, other ∉ before.ids := by
  rw [firstGroupOf?, List.min?_eq_none_iff, List.filterMap_eq_nil_iff] at first
  intro other among
  exact sound.groupOf?_eq_none_iff.mp (first other among)

/-- A component that nothing needs starts a group of its own. -/
theorem exists_places_none (sound : before.Sound) (free : id ∉ before.ids)
    (unneeded : residue.dependentsOf id = []) :
    ∃ after, (before.addByDependents graph id []).outcome = .ok after ∧
      after.Sound ∧ Places residue before id after := by
  obtain ⟨after, went, afterSound, groups⟩ :=
    sound.push (List.cons_ne_nil { id := id } []) (by simp)
      (by simpa using free)
  refine ⟨after, ?_, afterSound, .alone unneeded groups⟩
  rw [addByDependents, Planning.outcome_bind_of_ok rfl, went]
  rfl

/-- A component with one dependent goes where that is. -/
theorem exists_places_one (formed : residue.WellFormed) (sound : before.Sound)
    (free : id ∉ before.ids) {parent : ResidueNode}
    (needed : residue.dependentsOf id = [parent]) :
    ∃ after, (before.addByDependents graph id [parent]).outcome = .ok after ∧
      after.Sound ∧ Places residue before id after := by
  rw [addByDependents, Planning.outcome_bind_of_ok rfl]
  cases held : before.groupOf? parent.id with
  | some index =>
      obtain ⟨after, went, afterSound, groups⟩ :=
        sound.add (sound.lt_length held)
          (show Member.id { id := id, dependents := [parent.id] } ∉ _ from free)
      exact ⟨after, went, afterSound, .joins needed held groups⟩
  | none =>
      have other : parent.id ≠ id :=
        formed.dependent_ne (needed ▸ List.mem_cons_self)
      have parentFree := sound.groupOf?_eq_none_iff.mp held
      obtain ⟨after, went, afterSound, groups⟩ :=
        sound.push
          (List.cons_ne_nil { id := parent.id }
            [{ id := id, dependents := [parent.id] }])
          (by simpa using other) (by simpa using ⟨parentFree, free⟩)
      refine ⟨after, ?_, afterSound, .founds needed parentFree groups⟩
      show (settle (before.push _)).outcome = _
      rw [went]
      rfl

/-- Shared components without a group join the first group of one that has a
group. -/
theorem outcome_addCommon_some {nodes : Residue} {index : Nat}
    (first : before.firstGroupOf? (Residue.commonDependencies nodes) =
      some index) :
    (before.addCommon graph nodes).outcome =
      (settle (before.addAll index
        (before.unplaced (Residue.sharedMembers nodes)))).outcome := by
  simp only [addCommon, Residue.ids_sharedMembers, first]
  rfl

/-- Where none has a group, they start one. -/
theorem outcome_addCommon_none {nodes : Residue}
    (first : before.firstGroupOf? (Residue.commonDependencies nodes) = none) :
    (before.addCommon graph nodes).outcome =
      (settle (before.push
        (before.unplaced (Residue.sharedMembers nodes)))).outcome := by
  simp only [addCommon, Residue.ids_sharedMembers, first]
  rfl

/-- What the dependents of a component share is placed together. -/
theorem exists_places_common (formed : residue.WellFormed)
    (sound : before.Sound) (several : 2 ≤ (residue.dependentsOf id).length) :
    ∃ after,
      (before.addCommon graph (residue.dependentsOf id)).outcome = .ok after ∧
      after.Sound ∧ Places residue before id after := by
  have some_node := Residue.ne_nil_of_several several
  have distinct :
      (Group.ids (Residue.sharedMembers (residue.dependentsOf id))).Nodup := by
    rw [Residue.ids_sharedMembers]
    exact Residue.nodup_commonDependencies formed
      fun _ found => (Residue.mem_dependentsOf.mp found).1
  cases first : before.firstGroupOf?
      (Residue.commonDependencies (residue.dependentsOf id)) with
  | some index =>
      obtain ⟨other, among, held⟩ := firstGroupOf?_some first
      have fresh : ∀ joining ∈ Group.ids (before.unplaced
          (Residue.sharedMembers (residue.dependentsOf id))),
          joining ∉ before.ids := by
        intro joining found
        obtain ⟨member, joins, rfl⟩ := Group.mem_ids_iff.mp found
        exact ((mem_unplaced sound).mp joins).2
      obtain ⟨after, went, afterSound, groups⟩ :=
        sound.addAll (sound.lt_length held) (nodup_ids_unplaced distinct) fresh
      refine ⟨after, ?_, afterSound, .merges several among held groups⟩
      rw [outcome_addCommon_some first, went]
      rfl
  | none =>
      have free := firstGroupOf?_none sound first
      rw [← Residue.ids_sharedMembers] at free
      obtain ⟨after, went, afterSound, groups⟩ :=
        sound.push (Residue.sharedMembers_ne_nil some_node) distinct free
      refine ⟨after, ?_, afterSound, .shares several ?_ groups⟩
      · rw [outcome_addCommon_none first, unplaced_eq_self sound free, went]
        rfl
      · rwa [Residue.ids_sharedMembers] at free

/-- A component of the residue without a group can always be placed, in one of
the five ways. -/
theorem exists_places (graph : Graph) (formed : residue.WellFormed)
    (sound : before.Sound) (free : id ∉ before.ids) :
    ∃ after,
      (before.addByDependents graph id (residue.dependentsOf id)).outcome =
        .ok after ∧
      after.Sound ∧ Places residue before id after := by
  cases needed : residue.dependentsOf id with
  | nil => exact exists_places_none sound free needed
  | cons parent others =>
      cases others with
      | nil => exact exists_places_one formed sound free needed
      | cons second rest =>
          rw [← needed]
          have several : 2 ≤ (residue.dependentsOf id).length := by
            simp [needed]
          have common :
              before.addByDependents graph id (residue.dependentsOf id) =
                before.addCommon graph (residue.dependentsOf id) := by
            rw [needed]
            rfl
          rw [common]
          exact exists_places_common formed sound several

/-! ### What every step has in common -/

/-- Members came into one group: a new one, or one that holds a component of the
residue already. -/
inductive Grows (residue : Residue) (before : Placement)
    (members : List Member) (after : Placement) : Prop where
  | start (some_member : members ≠ [])
      (groups : after.groups = before.groups ++ [members])
  | join {other : ComponentId} {index : Nat} (among : other ∈ residue.ids)
      (held : before.groupOf? other = some index)
      (groups : after.groups = before.groups.modify index (· ++ members))

/-- A member of the residue that is there because of members of the residue. -/
def OfResidue (residue : Residue) (member : Member) : Prop :=
  member.id ∈ residue.ids ∧ ∀ other ∈ member.dependents, other ∈ residue.ids

theorem ofResidue_sharedMembers (formed : residue.WellFormed)
    (some_node : residue.dependentsOf id ≠ []) :
    ∀ member ∈ Residue.sharedMembers (residue.dependentsOf id),
      OfResidue residue member := by
  intro member found
  obtain ⟨other, shared, rfl⟩ := List.mem_map.mp found
  refine ⟨formed.mem_ids_of_mem_common some_node shared, ?_⟩
  intro dependent among
  obtain ⟨node, needs, rfl⟩ := List.mem_map.mp among
  exact Residue.mem_ids_of_mem_dependentsOf needs

/-- Whichever way a component is placed, members of the residue come into one
group, and it is one of them. -/
theorem Places.grows (formed : residue.WellFormed) (sound : before.Sound)
    (among : id ∈ residue.ids) (free : id ∉ before.ids) {after : Placement}
    (places : Places residue before id after) :
    ∃ members, Grows residue before members after ∧
      id ∈ Group.ids members ∧
      ∀ member ∈ members, OfResidue residue member := by
  have parent_among {parent : ResidueNode}
      (needed : residue.dependentsOf id = [parent]) :
      parent.id ∈ residue.ids :=
    Residue.mem_ids_of_mem_dependentsOf (needed ▸ List.mem_cons_self)
  cases places with
  | alone unneeded groups =>
      refine ⟨_, .start (by simp) groups, by simp, ?_⟩
      simpa [OfResidue] using among
  | joins needed held groups =>
      refine ⟨_, .join (parent_among needed) held groups, by simp, ?_⟩
      simpa [OfResidue] using ⟨among, parent_among needed⟩
  | founds needed parentFree groups =>
      refine ⟨_, .start (by simp) groups, by simp, ?_⟩
      simpa [OfResidue] using
        ⟨parent_among needed, among, parent_among needed⟩
  | merges several shared held groups =>
      have some_node := Residue.ne_nil_of_several several
      have all := ofResidue_sharedMembers formed some_node
      have other_among := formed.mem_ids_of_mem_common some_node shared
      refine ⟨_, .join other_among held groups, ?_, fun member found => ?_⟩
      · obtain ⟨own, found, same⟩ := Group.mem_ids_iff.mp
          (Residue.mem_ids_sharedMembers_self some_node)
        refine Group.mem_ids_iff.mpr ⟨own, ?_, same⟩
        exact (mem_unplaced sound).mpr ⟨found, same ▸ free⟩
      · exact all member ((mem_unplaced sound).mp found).1
  | shares several unshared groups =>
      have some_node := Residue.ne_nil_of_several several
      have own := Residue.mem_ids_sharedMembers_self some_node
      refine ⟨_, .start ?_ groups, own,
        ofResidue_sharedMembers formed some_node⟩
      intro none
      simp [none] at own

/-! ### Steps and runs -/

/-- A component of the residue that had no group was placed. -/
structure Step (residue : Residue) (before after : Placement) : Prop where
  sound : before.Sound
  sound_after : after.Sound
  places : ∃ id ∈ residue.ids, id ∉ before.ids ∧ Places residue before id after

/-- Components of the residue were placed, one after the other. -/
def Steps (residue : Residue) : Placement → Placement → Prop :=
  Relation.ReflTransGen (Step residue)

/-- After a step, the components of one list of members of the residue have a
group beside those that had one before. -/
theorem Step.ids_perm (formed : residue.WellFormed) {after : Placement}
    (step : Step residue before after) :
    ∃ members, after.ids.Perm (before.ids ++ Group.ids members) ∧
      ∀ member ∈ members, OfResidue residue member := by
  obtain ⟨id, among, free, places⟩ := step.places
  obtain ⟨members, grows, _, all⟩ :=
    places.grows formed step.sound among free
  refine ⟨members, ?_, all⟩
  cases grows with
  | start _ groups => rw [ids_of_started groups]
  | join _ held groups =>
      exact ids_perm_of_joined (step.sound.lt_length held) groups

/-- No component loses its group. -/
theorem Steps.ids_subset (formed : residue.WellFormed) {after : Placement}
    (steps : Steps residue before after) : before.ids ⊆ after.ids := by
  induction steps with
  | refl => exact List.Subset.refl _
  | tail _ step ih =>
      obtain ⟨members, perm, _⟩ := step.ids_perm formed
      intro other placed
      exact perm.mem_iff.mpr (List.mem_append_left _ (ih placed))

/-- Only components of the residue get a group. -/
theorem Steps.mem_ids_or (formed : residue.WellFormed) {after : Placement}
    (steps : Steps residue before after) {other : ComponentId}
    (placed : other ∈ after.ids) :
    other ∈ before.ids ∨ other ∈ residue.ids := by
  induction steps with
  | refl => exact Or.inl placed
  | tail _ step ih =>
      obtain ⟨members, perm, all⟩ := step.ids_perm formed
      rcases List.mem_append.mp (perm.mem_iff.mp placed) with old | new
      · exact ih old
      · obtain ⟨member, found, rfl⟩ := Group.mem_ids_iff.mp new
        exact Or.inr (all member found).1

/-- Placing a residue has a result, reached by steps, and each of the given
members has a group then. -/
theorem exists_addResidue (formed : residue.WellFormed) (sound : before.Sound)
    {nodes : Residue} (among : nodes ⊆ residue) :
    ∃ after, (before.addResidue graph residue nodes).outcome = .ok after ∧
      after.Sound ∧ Steps residue before after ∧
      ∀ node ∈ nodes, node.id ∈ after.ids := by
  induction nodes generalizing before with
  | nil => exact ⟨before, rfl, sound, .refl, by simp⟩
  | cons node rest ih =>
      have restAmong := (List.cons_subset.mp among).2
      have known : node.id ∈ residue.ids :=
        List.mem_map_of_mem (among List.mem_cons_self)
      rw [addResidue]
      by_cases placed : before.isPlaced node.id = true
      · obtain ⟨after, went, afterSound, steps, all⟩ := ih sound restAmong
        refine ⟨after, ?_, afterSound, steps, ?_⟩
        · rw [if_pos placed, went]
        · refine List.forall_mem_cons.mpr ⟨?_, all⟩
          exact steps.ids_subset formed (sound.isPlaced_iff.mp placed)
      · have free := mt sound.isPlaced_iff.mpr placed
        obtain ⟨next, stepped, nextSound, places⟩ :=
          exists_places graph formed sound free
        obtain ⟨after, went, afterSound, steps, all⟩ := ih nextSound restAmong
        obtain ⟨members, grows, own, _⟩ :=
          places.grows formed sound known free
        have step : Step residue before next :=
          ⟨sound, nextSound, node.id, known, free, places⟩
        refine ⟨after, ?_, afterSound, .head step steps, ?_⟩
        · rw [if_neg placed, Planning.outcome_bind_of_ok stepped, went]
        · refine List.forall_mem_cons.mpr ⟨steps.ids_subset formed ?_, all⟩
          cases grows with
          | start _ groups =>
              rw [ids_of_started groups]
              exact List.mem_append_right _ own
          | join _ held groups =>
              rw [(ids_perm_of_joined (sound.lt_length held) groups).mem_iff]
              exact List.mem_append_right _ own

/-! ### What a run keeps -/

/-- Groups that hold nothing of the residue stay as they are, and in front. -/
theorem Steps.prefix_groups (formed : residue.WellFormed) {after : Placement}
    (steps : Steps residue before after)
    (apart : ∀ id ∈ residue.ids, id ∉ before.ids) :
    before.groups <+: after.groups := by
  induction steps with
  | refl => exact List.prefix_rfl
  | @tail middle after _ step ih =>
      obtain ⟨id, among, free, places⟩ := step.places
      obtain ⟨members, grows, _⟩ := places.grows formed step.sound among free
      cases grows with
      | start _ groups =>
          rw [groups]
          exact ih.trans (List.prefix_append _ _)
      | @join other index otherAmong held groups =>
          rw [groups]
          apply Group.prefix_modify _ ih
          apply Nat.not_lt.mp
          intro early
          -- A group in front would hold a component of the residue.
          obtain ⟨group, at_index, found⟩ :=
            (step.sound.recorded other index).mp held
          have same := List.prefix_iff_getElem?.mp ih index early
          rw [at_index] at same
          apply apart other otherAmong
          apply mem_ids.mpr ⟨group, ?_, found⟩
          rw [Option.some.inj same]
          exact List.getElem_mem early

/-- What holds of every group holds after a run if it holds of any members of
the residue together and stays when such members join. -/
theorem Steps.forall_groups (property : Group → Prop)
    (formed : residue.WellFormed) {after : Placement}
    (steps : Steps residue before after)
    (all : ∀ group ∈ before.groups, property group)
    (started : ∀ members : List Member, members ≠ [] →
      (∀ member ∈ members, OfResidue residue member) → property members)
    (joined : ∀ home members : List Member, property home →
      (∀ member ∈ members, OfResidue residue member) →
        property (home ++ members)) :
    ∀ group ∈ after.groups, property group := by
  induction steps with
  | refl => exact all
  | tail _ step ih =>
      obtain ⟨id, known, free, places⟩ := step.places
      obtain ⟨members, grows, _, own⟩ :=
        places.grows formed step.sound known free
      cases grows with
      | start some_member groups =>
          exact forall_groups_of_append ih groups
            (started members some_member own)
      | join _ _ groups =>
          apply forall_groups_of_modify ih groups
          intro home at_index
          exact joined home members (ih home (List.mem_of_getElem? at_index))
            own

/-- A run makes no empty group. -/
theorem Steps.nil_not_mem (formed : residue.WellFormed) {after : Placement}
    (steps : Steps residue before after) (none_empty : [] ∉ before.groups) :
    [] ∉ after.groups := by
  have kept : ∀ group ∈ after.groups, group ≠ [] := by
    apply Steps.forall_groups (fun group => group ≠ []) formed steps
    · intro group among empty
      exact none_empty (empty ▸ among)
    · intro members some_member _
      exact some_member
    · intro home members some_home _ none
      exact some_home (List.append_eq_nil_iff.mp none).1
  intro empty
  exact kept [] empty rfl

/-- Members that were not there before are there because of members of the
residue. -/
theorem Steps.ofResidue (formed : residue.WellFormed) {after : Placement}
    (steps : Steps residue before after) {group : Group}
    (among : group ∈ after.groups) {member : Member} (found : member ∈ group) :
    (∃ old ∈ before.groups, member ∈ old) ∨ OfResidue residue member := by
  have kept : ∀ group ∈ after.groups, ∀ member ∈ group,
      (∃ old ∈ before.groups, member ∈ old) ∨ OfResidue residue member := by
    apply Steps.forall_groups
      (fun group => ∀ member ∈ group,
        (∃ old ∈ before.groups, member ∈ old) ∨ OfResidue residue member)
      formed steps
    · intro group among member found
      exact Or.inl ⟨group, among, found⟩
    · intro members _ own member found
      exact Or.inr (own member found)
    · intro home members kept own member found
      rcases List.mem_append.mp found with old | new
      · exact kept member old
      · exact Or.inr (own member new)
  exact kept group among member found

end Placement

end CodeSplit
