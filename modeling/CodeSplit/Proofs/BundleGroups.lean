/-
Module: CodeSplit.Proofs.BundleGroups
Purpose: the groups that the bundles of the user get, member by member, whatever
  was placed before them.
Main exports:
  Placement.BundlesPlaced, Placement.bundlesPlaced, Placement.addBundles_places
-/
import CodeSplit.Proofs.SharedPlacing

namespace CodeSplit.Placement

/-!
A component goes to the first bundle that names it, in the order of placing, and
stands in its group where that bundle names it first.  Neither what the bundle
names again nor what it names in vain leaves a trace there; both count only when
bundles are compared by size.
-/

/-- Between two placements, the bundles of the user were placed, each with the
group that was started for it, and nothing else changed. -/
structure BundlesPlaced (graph : Graph) (bundles : List (List String))
    (before after : Placement) (shares : List Share) : Prop where
  /-- The bundles that got a group are those that claim some component without
  one. -/
  mem_owners : ∀ bundle index,
    (bundle, index) ∈ shares.map (·.owner) ↔
      bundles[index]? = some bundle ∧
        ∃ id, graph.ClaimedBy bundles index id ∧ before.isPlaced id = false
  /-- Larger bundles come first, and those of one size in the order in which they
  are declared. -/
  ordered : (shares.map (·.owner)).Pairwise BundlePrecedes
  /-- A group lists what its bundle claims, apart from what had a group already,
  in the order in which the bundle names it first. -/
  lists : ∀ share ∈ shares, Group.Lists share.group
    (graph.namedBy share.owner.1) fun id =>
      graph.ClaimedBy bundles share.owner.2 id ∧ before.isPlaced id = false
  /-- The groups that there were stand in front of these. -/
  groups : after.groups = before.groups ++ shares.map (·.group)
  /-- A component that some bundle names and that had no group is in the group of
  the bundle that claims it. -/
  claimed : ∀ id, graph.Bundled bundles id → before.isPlaced id = false →
    ∃ place share, shares[place]? = some share ∧
      graph.ClaimedBy bundles share.owner.2 id ∧
      after.groupOf? id = some (before.groups.length + place)
  /-- A component that had a group is still there. -/
  still : ∀ id, before.isPlaced id = true →
    after.groupOf? id = before.groupOf? id
  /-- A component that no bundle names is where it was. -/
  unnamed : ∀ id, ¬ graph.Bundled bundles id →
    after.groupOf? id = before.groupOf? id

variable {graph : Graph} {bundles : List (List String)}
variable {before after : Placement} {shares : List Share}

theorem Sound.isPlaced_eq_false_iff (sound : before.Sound)
    {id : ComponentId} : before.isPlaced id = false ↔ id ∉ before.ids := by
  rw [← Bool.not_eq_true, sound.isPlaced_iff]

/-- What a bundle with a group gets is what it claims of the components without
one. -/
theorem Shares.gets_iff (sound : before.Sound)
    (shared : before.Shares graph (orderBundles bundles) shares)
    {share : Share} (found : share ∈ shares) (id : ComponentId) :
    before.Gets graph (orderBundles bundles) share.owner id ↔
      graph.ClaimedBy bundles share.owner.2 id ∧
        before.isPlaced id = false := by
  have among := shared.sublist.subset (List.mem_map_of_mem found)
  rw [sound.isPlaced_eq_false_iff]
  exact gets_orderBundles_iff (mem_orderBundles.mp among).1 id

/-- The bundle that claims a component without a group has a group of what it
gets. -/
theorem Shares.exists_owner (sound : before.Sound)
    (shared : before.Shares graph (orderBundles bundles) shares)
    {bundle : List String} {index : Nat} :
    (bundle, index) ∈ shares.map (·.owner) ↔
      bundles[index]? = some bundle ∧
        ∃ id, graph.ClaimedBy bundles index id ∧
          before.isPlaced id = false := by
  rw [shared.mem_owners]
  constructor
  · intro given
    rcases given with ⟨id, gets⟩
    have at_index := (mem_orderBundles.mp gets.1.mem).1
    rw [gets_orderBundles_iff at_index,
      ← sound.isPlaced_eq_false_iff] at gets
    exact ⟨at_index, id, gets⟩
  · intro given
    rcases given with ⟨at_index, id, claims, free⟩
    exact ⟨id, (gets_orderBundles_iff at_index id).mpr
      ⟨claims, sound.isPlaced_eq_false_iff.mp free⟩⟩

/-- A component is recorded in the group that was started for its bundle. -/
theorem groupOf?_of_share (afterSound : after.Sound)
    (groups : after.groups = before.groups ++ shares.map (·.group))
    {place : Nat} {share : Share} (at_place : shares[place]? = some share)
    {id : ComponentId} (held : id ∈ Group.ids share.group) :
    after.groupOf? id = some (before.groups.length + place) := by
  apply (afterSound.recorded id _).mpr
  refine ⟨share.group, ?_, held⟩
  rw [groups, List.getElem?_append_right (Nat.le_add_right _ _),
    Nat.add_sub_cancel_left, List.getElem?_map, at_place, Option.map_some]

/-- Groups of what bundles get place these bundles. -/
theorem bundlesPlaced (sound : before.Sound) (afterSound : after.Sound)
    (groups : after.groups = before.groups ++ shares.map (·.group))
    (shared : before.Shares graph (orderBundles bundles) shares) :
    BundlesPlaced graph bundles before after shares := by
  have lists : ∀ share ∈ shares, Group.Lists share.group
      (graph.namedBy share.owner.1) fun id =>
        graph.ClaimedBy bundles share.owner.2 id ∧
          before.isPlaced id = false := fun share found =>
    (shared.lists share found).congr (shared.gets_iff sound found)
  have still : ∀ id, before.isPlaced id = true →
      after.groupOf? id = before.groupOf? id := fun id =>
    sound.groupOf?_eq_of_prefix afterSound ⟨_, groups.symm⟩
  refine ⟨fun bundle index => shared.exists_owner sound,
    (orderBundles_pairwise bundles).sublist shared.sublist, lists, groups,
    ?_, still, ?_⟩
  · intro id named free
    rcases Graph.bundled_iff_exists_claimedBy.mp named with
      ⟨index, claims⟩
    have ⟨bundle, at_index, _⟩ := claims
    rcases List.mem_map.mp ((shared.exists_owner sound).mpr
      ⟨at_index, id, claims, free⟩) with ⟨share, found, owner⟩
    have claims' : graph.ClaimedBy bundles share.owner.2 id := by
      rw [owner]
      exact claims
    rcases List.mem_iff_getElem?.mp found with ⟨place, at_place⟩
    have held := (lists share found).holds.mem_ids_iff.mpr ⟨claims', free⟩
    exact ⟨place, share, at_place, claims',
      groupOf?_of_share afterSound groups at_place held⟩
  · intro id unnamed
    cases placed : before.isPlaced id with
    | true => exact still id placed
    | false =>
        have free := sound.isPlaced_eq_false_iff.mp placed
        rw [sound.groupOf?_eq_none_iff.mpr free,
          afterSound.groupOf?_eq_none_iff]
        intro held
        rw [ids, groups, List.flatMap_append, List.mem_append] at held
        rcases List.mem_flatMap.mp (held.resolve_left free) with
          ⟨group, among, found⟩
        rcases List.mem_map.mp among with ⟨share, shared, rfl⟩
        have claims := (lists share shared).holds.mem_ids_iff.mp found
        exact unnamed (Graph.bundled_iff_exists_claimedBy.mpr
          ⟨_, claims.1⟩)

/-- Whatever was placed before, placing the bundles of the user has a result.
Every component that some bundle names and that had no group is then in the group
of the first bundle to name it, where it stands as that bundle names it; every
other component is where it was. -/
theorem addBundles_places (graph : Graph) (bundles : List (List String))
    (changes : List Change) :
    ∃ after shares,
      ((changeAll {} changes).addBundles graph bundles).outcome =
        .ok after ∧
      after.Sound ∧
      BundlesPlaced graph bundles (changeAll {} changes) after shares := by
  have sound := sound_changeAll changes
  rcases exists_shares graph sound (nodup_orderBundles bundles) with
    ⟨after, shares, went, afterSound, groups, shared⟩
  exact ⟨after, shares, went, afterSound,
    bundlesPlaced sound afterSound groups shared⟩

end CodeSplit.Placement
