/-
Module: CodeSplit.Proofs.CanonicalGroups
Purpose: sorting groups under construction writes down what they hold in one way
  only, whatever calls led there.
Main exports:
  Placement.content, Placement.IsSpelling, Placement.IsSpelling.unique,
  Placement.isSpelling_sortedGroups, Placement.sortedGroups_canonical
-/
import CodeSplit.Proofs.GroupOrder
import CodeSplit.Proofs.PlacementHistory
import CodeSplit.Proofs.Settling
import Mathlib.Data.Finset.Dedup
import Mathlib.Data.Finset.Image

namespace CodeSplit

/-!
Groups under construction stand in the order of the calls that made them, and so
do their members and the dependents of these.  A refused call can leave a group
without members behind, and dependents can be repeated.  None of this matters to
what the groups hold: a set of groups, each a set of members, each with its set
of dependents.  Sorted groups spell this out level by level, and at every level
there is one ascending spelling of a set.
-/

/-- A set has one spelling in a strict order, even if its members are seen only
through a view that tells them apart. -/
theorem eq_of_toFinset_map_eq {α β : Type} [DecidableEq β]
    {before : α → α → Prop} [Std.Irrefl before] [Std.Antisymm before]
    {view : α → β} {xs ys : List α} (ordered : xs.Pairwise before)
    (ordered' : ys.Pairwise before)
    (same : (xs.map view).toFinset = (ys.map view).toFinset)
    (injective : ∀ x ∈ xs, ∀ y ∈ ys, view x = view y → x = y) : xs = ys := by
  have seen (v : β) : v ∈ xs.map view ↔ v ∈ ys.map view := by
    rw [← List.mem_toFinset, same, List.mem_toFinset]
  apply ordered.eq_of_mem_iff ordered'
  intro x
  constructor
  · intro among
    obtain ⟨y, among', alike⟩ :=
      List.mem_map.mp ((seen _).mp (List.mem_map_of_mem among))
    exact injective x among y among' alike.symm ▸ among'
  · intro among
    obtain ⟨y, among', alike⟩ :=
      List.mem_map.mp ((seen _).mpr (List.mem_map_of_mem among))
    exact injective y among' x among alike ▸ among'

/-! ### What groups hold -/

/-- A component with the set of its dependents. -/
def Member.content (member : Member) : ComponentId × Finset ComponentId :=
  (member.id, member.dependents.toFinset)

/-- The set of the members of a group. -/
def Group.content (group : Group) :
    Finset (ComponentId × Finset ComponentId) :=
  (group.map Member.content).toFinset

/-- The set of the groups that have members. -/
def Placement.content (placement : Placement) :
    Finset (Finset (ComponentId × Finset ComponentId)) :=
  (placement.groups.map Group.content).toFinset.erase ∅

namespace Member

/-- The dependents ascend strictly. -/
def InOrder (member : Member) : Prop :=
  member.dependents.Pairwise (· < ·)

/-- Members in order that hold the same are the same. -/
theorem InOrder.eq_of_content {member member' : Member}
    (ordered : member.InOrder) (ordered' : member'.InOrder)
    (same : member.content = member'.content) : member = member' := by
  have ids : member.id = member'.id := congrArg Prod.fst same
  have sets : member.dependents.toFinset = member'.dependents.toFinset :=
    congrArg Prod.snd same
  have dependents : member.dependents = member'.dependents := by
    apply List.Pairwise.eq_of_mem_iff ordered ordered'
    intro id
    rw [← List.mem_toFinset, sets, List.mem_toFinset]
  cases member
  cases member'
  cases ids
  cases dependents
  rfl

end Member

namespace Group

variable {group group' : Group}

/-- The members ascend strictly, and so do the dependents of each. -/
structure InOrder (group : Group) : Prop where
  ids_ascending : (ids group).Pairwise (· < ·)
  members_ordered : ∀ member ∈ group, member.InOrder

theorem mem_content {held : ComponentId × Finset ComponentId} :
    held ∈ content group ↔ ∃ member ∈ group, member.content = held := by
  rw [content, List.mem_toFinset, List.mem_map]

theorem content_eq_empty_iff : content group = ∅ ↔ group = [] := by
  rw [content, List.toFinset_eq_empty_iff, List.map_eq_nil_iff]

/-- Groups in order that hold the same are the same. -/
theorem InOrder.eq_of_content (ordered : InOrder group)
    (ordered' : InOrder group') (same : content group = content group') :
    group = group' := by
  have irreflexive : Std.Irrefl fun one other : Member => one.id < other.id :=
    ⟨fun member => lt_irrefl member.id⟩
  have antisymmetric :
      Std.Antisymm fun one other : Member => one.id < other.id :=
    ⟨fun _ _ below above => absurd above (lt_asymm below)⟩
  apply eq_of_toFinset_map_eq (List.pairwise_map.mp ordered.ids_ascending)
    (List.pairwise_map.mp ordered'.ids_ascending) same
  intro member among member' among'
  exact (ordered.members_ordered member among).eq_of_content
    (ordered'.members_ordered member' among')

/-- Sorting a group that repeats no component puts it in order. -/
theorem inOrder_sorted (distinct : (ids group).Nodup) :
    InOrder (sorted group) where
  ids_ascending := ids_sorted_pairwise_lt distinct
  members_ordered := by
    intro member among
    obtain ⟨old, _, rfl⟩ := mem_sorted.mp among
    exact ascending_pairwise old.dependents

/-- Sorting a group keeps what it holds. -/
theorem content_sorted (group : Group) :
    content (sorted group) = content group := by
  have kept (member : Member) :
      Member.content
          { member with dependents := ascending member.dependents } =
        member.content := by
    apply Prod.ext
    · rfl
    · ext id
      simp only [Member.content, List.mem_toFinset, mem_ascending]
  ext held
  simp only [mem_content, mem_sorted]
  constructor
  · rintro ⟨_, ⟨old, among, rfl⟩, rfl⟩
    exact ⟨old, among, (kept old).symm⟩
  · rintro ⟨old, among, rfl⟩
    exact ⟨_, ⟨old, among, rfl⟩, kept old⟩

/-- The smallest member of one group is below that of another. -/
def StartsBelow (one other : Group) : Prop :=
  ∃ first second, smallest? one = some first ∧
    smallest? other = some second ∧ first < second

instance : Std.Irrefl StartsBelow where
  irrefl group := by
    rintro ⟨first, second, least, least', below⟩
    obtain rfl := Option.some.inj (least.symm.trans least')
    exact lt_irrefl first below

instance : Std.Antisymm StartsBelow where
  antisymm one other := by
    rintro ⟨first, second, least, least', below⟩
      ⟨second', first', again', again, above⟩
    obtain rfl := Option.some.inj (least.symm.trans again)
    obtain rfl := Option.some.inj (least'.symm.trans again')
    exact absurd above (lt_asymm below)

end Group

/-! ### Groups in order -/

theorem nil_not_mem_arrange (groups : List Group) : [] ∉ arrange groups := by
  intro empty
  obtain ⟨old, _, nonempty, emptied⟩ := mem_arrange.mp empty
  exact nonempty (Group.sorted_eq_nil_iff.mp emptied)

/-- Groups in order have the components of all groups. -/
theorem ids_arrange_perm (groups : List Group) :
    ((arrange groups).flatMap Group.ids).Perm (groups.flatMap Group.ids) := by
  apply ((arrange_perm groups).flatMap_right _).trans
  rw [List.flatMap_map]
  apply (List.Perm.flatMap_left _ fun group _ =>
    Group.ids_sorted_perm group).trans
  rw [← ids_flatten, List.flatten_filter_not_isEmpty, ids_flatten]

namespace Placement

variable {placement placement' : Placement} {groups groups' : List Group}

theorem mem_content {held : Finset (ComponentId × Finset ComponentId)} :
    held ∈ placement.content ↔
      ∃ group ∈ placement.groups, group ≠ [] ∧ Group.content group = held := by
  rw [content, Finset.mem_erase, List.mem_toFinset, List.mem_map]
  constructor
  · rintro ⟨nonempty, group, among, rfl⟩
    exact ⟨group, among, mt Group.content_eq_empty_iff.mpr nonempty, rfl⟩
  · rintro ⟨group, among, nonempty, rfl⟩
    exact ⟨mt Group.content_eq_empty_iff.mp nonempty, group, among, rfl⟩

/-- The groups spell out what a placement holds, in ascending order at every
level. -/
structure IsSpelling (placement : Placement) (groups : List Group) : Prop where
  none_empty : [] ∉ groups
  members_ordered : ∀ group ∈ groups, Group.InOrder group
  starts_ascending : groups.Pairwise Group.StartsBelow
  content_eq : (groups.map Group.content).toFinset = placement.content
  distinct : (groups.flatMap Group.ids).Nodup
  placed_iff : ∀ id,
    id ∈ groups.flatMap Group.ids ↔ placement.isPlaced id = true

namespace IsSpelling

/-- What placements hold is the same exactly if it is spelled in the same way. -/
theorem unique (spells : placement.IsSpelling groups)
    (spells' : placement'.IsSpelling groups') :
    groups = groups' ↔ placement.content = placement'.content := by
  rw [← spells.content_eq, ← spells'.content_eq]
  constructor
  · rintro rfl
    rfl
  · intro same
    apply eq_of_toFinset_map_eq spells.starts_ascending
      spells'.starts_ascending same
    intro group among group' among'
    exact (spells.members_ordered group among).eq_of_content
      (spells'.members_ordered group' among')

end IsSpelling

theorem Sound.nodup_ids_sortedGroups (sound : placement.Sound) :
    (placement.sortedGroups.flatMap Group.ids).Nodup :=
  (ids_arrange_perm placement.groups).symm.nodup sound.distinct

/-- Sorting the groups of a sound placement spells them out. -/
theorem Sound.isSpelling_sortedGroups (sound : placement.Sound) :
    placement.IsSpelling placement.sortedGroups where
  none_empty := nil_not_mem_arrange placement.groups
  members_ordered := by
    intro group among
    obtain ⟨old, among', _, rfl⟩ := mem_arrange.mp among
    exact Group.inOrder_sorted
      ((List.nodup_flatMap.mp sound.distinct).1 old among')
  starts_ascending := by
    apply sortGroups_smallest_lt
    · exact mt mem_sortGroups.mpr (nil_not_mem_arrange placement.groups)
    · exact (ids_sortGroups_perm _).nodup sound.nodup_ids_sortedGroups
  content_eq := by
    ext held
    rw [List.mem_toFinset, List.mem_map, mem_content]
    constructor
    · rintro ⟨_, among, rfl⟩
      obtain ⟨old, among', nonempty, rfl⟩ := mem_arrange.mp among
      exact ⟨old, among', nonempty, (Group.content_sorted old).symm⟩
    · rintro ⟨old, among, nonempty, rfl⟩
      exact ⟨Group.sorted old, mem_arrange.mpr ⟨old, among, nonempty, rfl⟩,
        Group.content_sorted old⟩
  distinct := sound.nodup_ids_sortedGroups
  placed_iff id := by
    rw [sound.isPlaced_iff]
    exact (ids_arrange_perm placement.groups).mem_iff

/-- After any calls, refused ones included, the sorted groups depend only on what
the groups hold, and they spell it out in ascending order. -/
theorem sortedGroups_canonical (changes changes' : List Change) :
    ((changeAll {} changes).sortedGroups =
        (changeAll {} changes').sortedGroups ↔
      (changeAll {} changes).content = (changeAll {} changes').content) ∧
    (changeAll {} changes).IsSpelling (changeAll {} changes).sortedGroups := by
  have spells := (sound_changeAll changes).isSpelling_sortedGroups
  have spells' := (sound_changeAll changes').isSpelling_sortedGroups
  exact ⟨spells.unique spells', spells⟩

/-- Neither the order of the calls, nor a repeated dependent, nor the group that a
refused call leaves without members is seen in the groups in order. -/
example :
    (changeAll {}
        [.push [{ id := 4 }, { id := 2, dependents := [7, 4, 7] }],
          .push [{ id := 4 }], .push [{ id := 1 }]]).sortedGroups =
      (changeAll {}
        [.push [{ id := 1 }], .push [{ id := 2, dependents := [4, 7] }],
          .add 1 { id := 4 }]).sortedGroups := by
  cbv

end Placement

end CodeSplit
