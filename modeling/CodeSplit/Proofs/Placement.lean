/-
Module: CodeSplit.Proofs.Placement
Purpose: groups under construction agree with the record of where components
  are, whatever is added to them.
Main exports:
  Placement.ids, Placement.Sound, Placement.Sound.addAll,
  Placement.Sound.opened, Placement.Sound.push
-/
import CodeSplit.Group.Placement
import Mathlib.Data.List.Nodup

namespace CodeSplit

namespace Group

@[simp] theorem ids_nil : ids [] = [] := rfl

@[simp] theorem ids_cons (member : Member) (group : Group) :
    ids (member :: group) = member.id :: ids group := rfl

@[simp] theorem ids_append (one other : Group) :
    ids (one ++ other) = ids one ++ ids other := by
  simp [ids]

theorem mem_ids_iff {group : Group} {id : ComponentId} :
    id ∈ ids group ↔ ∃ member ∈ group, member.id = id := by
  simp [ids]

/-- Adding members to one of several groups adds their numbers. -/
theorem ids_modify_perm {groups : List Group} {index : Nat}
    (inRange : index < groups.length) (members : List Member) :
    ((groups.modify index (· ++ members)).flatMap ids).Perm
      (groups.flatMap ids ++ ids members) := by
  induction groups generalizing index with
  | nil => simp at inRange
  | cons group groups ih =>
      cases index with
      | zero =>
          simp only [List.modify_zero_cons, List.flatMap_cons, ids_append,
            List.append_assoc]
          exact List.perm_append_comm.append_left (ids group)
      | succ index =>
          simp only [List.modify_succ_cons, List.flatMap_cons,
            List.append_assoc]
          exact (ih (by simpa using inRange)).append_left (ids group)

theorem modify_last (groups : List Group) (last : Group)
    (change : Group → Group) :
    (groups ++ [last]).modify groups.length change =
      groups ++ [change last] := by
  induction groups with
  | nil => rfl
  | cons group groups ih => simpa using ih

/-- A group after one group has changed is an old one, or the changed one. -/
theorem mem_modify {groups : List Group} {index : Nat}
    {change : Group → Group} {group : Group}
    (found : group ∈ groups.modify index change) :
    group ∈ groups ∨ ∃ old, groups[index]? = some old ∧ group = change old := by
  obtain ⟨other, at_other⟩ := List.mem_iff_getElem?.mp found
  rw [List.getElem?_modify] at at_other
  by_cases here : index = other
  · subst here
    obtain ⟨old, held, rfl⟩ := Option.map_eq_some_iff.mp at_other
    exact Or.inr ⟨old, held, by simp⟩
  · obtain ⟨old, held, rfl⟩ := Option.map_eq_some_iff.mp at_other
    rw [if_neg here]
    exact Or.inl (List.mem_of_getElem? held)

/-- Changing a group behind the first ones leaves those as they are. -/
theorem prefix_modify {first groups : List Group} {index : Nat}
    (change : Group → Group) (begins : first <+: groups)
    (behind : first.length ≤ index) :
    first <+: groups.modify index change := by
  rw [List.prefix_iff_getElem?] at begins ⊢
  intro other inRange
  rw [List.getElem?_modify_ne change groups (by omega)]
  exact begins other inRange

end Group

namespace Placement

/-- The components that have a group, by group. -/
def ids (placement : Placement) : List ComponentId :=
  placement.groups.flatMap Group.ids

/-- What holds of every placement that components were added to: no component
occurs twice, and the record gives for each one the index of its group. -/
structure Sound (placement : Placement) : Prop where
  distinct : placement.ids.Nodup
  recorded : ∀ id index, placement.groupOf? id = some index ↔
    ∃ group, placement.groups[index]? = some group ∧ id ∈ Group.ids group

/-- A placement without groups is sound. -/
theorem sound_empty : Sound {} where
  distinct := List.nodup_nil
  recorded id index := by simp [groupOf?]

variable {placement : Placement}

theorem mem_ids {id : ComponentId} :
    id ∈ placement.ids ↔ ∃ group ∈ placement.groups, id ∈ Group.ids group := by
  simp [ids]

/-- After members joined a group, they have a group beside those before. -/
theorem ids_perm_of_joined {grown : Placement} {index : Nat}
    {members : List Member} (inRange : index < placement.groups.length)
    (joined : grown.groups = placement.groups.modify index (· ++ members)) :
    grown.ids.Perm (placement.ids ++ Group.ids members) := by
  rw [ids, joined]
  exact Group.ids_modify_perm inRange members

/-- After members started a group, they have a group beside those before. -/
theorem ids_of_started {grown : Placement} {members : List Member}
    (started : grown.groups = placement.groups ++ [members]) :
    grown.ids = placement.ids ++ Group.ids members := by
  simp [ids, started]

/-- A property of groups holds after a group was changed if the changed group
has it. -/
theorem forall_groups_of_modify {property : Group → Prop}
    {grown : Placement}
    (all : ∀ group ∈ placement.groups, property group) {index : Nat}
    {members : List Member}
    (groups : grown.groups = placement.groups.modify index (· ++ members))
    (changed : ∀ home, placement.groups[index]? = some home →
      property (home ++ members)) :
    ∀ group ∈ grown.groups, property group := by
  intro group among
  rw [groups] at among
  rcases Group.mem_modify among with old | ⟨home, at_index, rfl⟩
  · exact all group old
  · exact changed home at_index

/-- A property of groups holds after a group was started if that group has
it. -/
theorem forall_groups_of_append {property : Group → Prop}
    {grown : Placement}
    (all : ∀ group ∈ placement.groups, property group) {started : Group}
    (groups : grown.groups = placement.groups ++ [started])
    (own : property started) : ∀ group ∈ grown.groups, property group := by
  rw [groups]
  exact List.forall_mem_append.mpr ⟨all, List.forall_mem_singleton.mpr own⟩

namespace Sound

/-- The components without a group are those that the record does not know. -/
theorem groupOf?_eq_none_iff (sound : placement.Sound) {id : ComponentId} :
    placement.groupOf? id = none ↔ id ∉ placement.ids := by
  constructor
  · intro unknown placed
    obtain ⟨group, among, found⟩ := mem_ids.mp placed
    obtain ⟨index, at_index⟩ := List.mem_iff_getElem?.mp among
    have held := (sound.recorded id index).mpr ⟨group, at_index, found⟩
    rw [unknown] at held
    cases held
  · intro free
    cases held : placement.groupOf? id with
    | none => rfl
    | some index =>
        obtain ⟨group, at_index, found⟩ := (sound.recorded id index).mp held
        exact absurd
          (mem_ids.mpr ⟨group, List.mem_of_getElem? at_index, found⟩) free

theorem isPlaced_iff (sound : placement.Sound) {id : ComponentId} :
    placement.isPlaced id = true ↔ id ∈ placement.ids := by
  rw [isPlaced, Option.isSome_iff_ne_none, ne_eq, sound.groupOf?_eq_none_iff,
    not_not]

/-- The recorded index is that of a group. -/
theorem lt_length (sound : placement.Sound) {id : ComponentId} {index : Nat}
    (held : placement.groupOf? id = some index) :
    index < placement.groups.length := by
  obtain ⟨group, at_index, _⟩ := (sound.recorded id index).mp held
  exact (List.getElem?_eq_some_iff.mp at_index).1

/-- The group at a recorded index holds the component. -/
theorem mem_of_held (sound : placement.Sound) {id : ComponentId}
    {index : Nat} (held : placement.groupOf? id = some index) {home : Group}
    (at_index : placement.groups[index]? = some home) :
    id ∈ Group.ids home := by
  obtain ⟨group, at_index', found⟩ := (sound.recorded id index).mp held
  rw [at_index] at at_index'
  cases at_index'
  exact found

/-- A component without a group can join any group. -/
theorem add (sound : placement.Sound) {index : Nat} {member : Member}
    (inRange : index < placement.groups.length)
    (fresh : member.id ∉ placement.ids) :
    ∃ grown, placement.add index member = .ok grown ∧ grown.Sound ∧
      grown.groups = placement.groups.modify index (· ++ [member]) := by
  have unknown := sound.groupOf?_eq_none_iff.mpr fresh
  refine ⟨_, by rw [Placement.add, unknown, if_pos inRange],
    ⟨?_, fun id other => ?_⟩, rfl⟩
  · rw [ids, (Group.ids_modify_perm inRange [member]).nodup_iff,
      List.nodup_append]
    refine ⟨sound.distinct, by simp, ?_⟩
    rintro id placed other joins rfl
    rw [Group.ids_cons, Group.ids_nil, List.mem_singleton] at joins
    exact fresh (joins ▸ placed)
  · have same_group : placement.groups[index]? =
        some placement.groups[index] := List.getElem?_eq_getElem inRange
    rw [groupOf?, List.lookup_cons, List.getElem?_modify]
    by_cases same : id = member.id
    · subst same
      rw [beq_self_eq_true]
      constructor
      · intro held
        cases held
        exact ⟨placement.groups[index] ++ [member], by simp [same_group],
          by simp⟩
      · intro given
        obtain ⟨group, at_other, found⟩ := given
        by_cases here : index = other
        · rw [here]
        · simp only [if_neg here, Option.map_eq_map, Option.map_id_fun',
            id] at at_other
          exact absurd
            (mem_ids.mpr ⟨group, List.mem_of_getElem? at_other, found⟩) fresh
    · rw [beq_false_of_ne same]
      show placement.groupOf? id = some other ↔ _
      rw [sound.recorded]
      by_cases here : index = other
      · subst here
        simp [same_group, same]
      · simp [here]

/-- Components without a group can join one together. -/
theorem addAll (sound : placement.Sound) {index : Nat}
    {members : List Member} (inRange : index < placement.groups.length)
    (distinct : (Group.ids members).Nodup)
    (fresh : ∀ id ∈ Group.ids members, id ∉ placement.ids) :
    ∃ grown, placement.addAll index members = (grown, none) ∧ grown.Sound ∧
      grown.groups = placement.groups.modify index (· ++ members) := by
  induction members generalizing placement with
  | nil =>
      refine ⟨placement, rfl, sound, ?_⟩
      simp only [List.append_nil]
      exact (List.modify_id index placement.groups).symm
  | cons member rest ih =>
      rw [Group.ids_cons, List.nodup_cons] at distinct
      obtain ⟨grown, added, grownSound, groups⟩ :=
        sound.add inRange (fresh member.id List.mem_cons_self)
      have room : index < grown.groups.length := by
        rw [groups, List.length_modify]
        exact inRange
      have stillFresh : ∀ id ∈ Group.ids rest, id ∉ grown.ids := by
        intro id among
        rw [(ids_perm_of_joined inRange groups).mem_iff, List.mem_append]
        intro given
        rcases given with placed | joins
        · exact fresh id (List.mem_cons_of_mem _ among) placed
        · rw [Group.ids_cons, Group.ids_nil, List.mem_singleton] at joins
          exact distinct.1 (joins ▸ among)
      obtain ⟨last, went, lastSound, lastGroups⟩ :=
        ih grownSound room distinct.2 stillFresh
      refine ⟨last, ?_, lastSound, ?_⟩
      · rw [Placement.addAll, added]
        exact went
      · rw [lastGroups, groups, List.modify_modify_eq]
        simp [Function.comp_def]

/-- A group without members can be started at any time. -/
theorem opened (sound : placement.Sound) :
    Sound { placement with groups := placement.groups ++ [[]] } := by
  refine ⟨?_, fun id index => ?_⟩
  · simpa [ids] using sound.distinct
  · refine (sound.recorded id index).trans ⟨?_, ?_⟩
    · intro given
      obtain ⟨group, at_index, found⟩ := given
      have inRange := (List.getElem?_eq_some_iff.mp at_index).1
      exact ⟨group, by rw [List.getElem?_append_left inRange, at_index],
        found⟩
    · intro given
      obtain ⟨group, at_index, found⟩ := given
      rw [List.getElem?_append] at at_index
      split at at_index
      · exact ⟨group, at_index, found⟩
      · rw [List.getElem?_singleton] at at_index
        split at at_index <;> simp_all

/-- Components without a group can start one together. -/
theorem push (sound : placement.Sound) {members : List Member}
    (some_member : members ≠ []) (distinct : (Group.ids members).Nodup)
    (fresh : ∀ id ∈ Group.ids members, id ∉ placement.ids) :
    ∃ grown, placement.push members = (grown, none) ∧ grown.Sound ∧
      grown.groups = placement.groups ++ [members] := by
  obtain ⟨grown, went, grownSound, groups⟩ :=
    sound.opened.addAll (show placement.groups.length < _ by simp) distinct
      (by simpa [ids] using fresh)
  refine ⟨grown, ?_, grownSound, ?_⟩
  · rw [Placement.push, if_neg (by simpa using some_member)]
    exact went
  · rw [groups, Group.modify_last]
    rfl

end Sound

end Placement

end CodeSplit
