/-
Module: CodeSplit.Proofs.Renumbering
Purpose: groups and entry modules under other numbers for the same components.
Main exports:
  Group.renumber, sortGroups_renumber, arrange_renumber, Graph.Alike,
  Graph.Alike.splitByStyling, Graph.Alike.ofGroup
-/
import CodeSplit.Proofs.Finished
import CodeSplit.Proofs.Settling

namespace CodeSplit

/-!
A graph may have the components of another one under other numbers.  As long as
the numbers keep their order, everything that is done to groups is done alike,
and what is made of groups in the end does not show the numbers at all.
-/

/-! ### Groups under other numbers -/

/-- A member under other numbers. -/
def Member.renumber (place : ComponentId → ComponentId) (member : Member) :
    Member where
  id := place member.id
  dependents := member.dependents.map place

@[simp] theorem Member.id_renumber (place : ComponentId → ComponentId)
    (member : Member) : (member.renumber place).id = place member.id := rfl

/-- A group under other numbers. -/
def Group.renumber (place : ComponentId → ComponentId) (group : Group) :
    Group :=
  group.map (Member.renumber place)

variable {place : ComponentId → ComponentId}

/-- Strictly ascending lists stay so under numbers in the same order. -/
theorem ascending_map (ascends : StrictMono place) (ids : List ComponentId) :
    ascending (ids.map place) = (ascending ids).map place := by
  have ordered : ((ascending ids).map place).Pairwise (· < ·) :=
    List.pairwise_map.mpr
      ((ascending_pairwise ids).imp fun below => ascends below)
  refine ascending_eq_of_mem_iff ordered fun id => ?_
  simp [mem_ascending]

namespace Group

@[simp] theorem ids_renumber (group : Group) :
    ids (renumber place group) = (ids group).map place := by
  simp [ids, renumber, Function.comp_def]

@[simp] theorem renumber_append (one other : Group) :
    renumber place (one ++ other) =
      renumber place one ++ renumber place other :=
  List.map_append

@[simp] theorem isEmpty_renumber (group : Group) :
    (renumber place group).isEmpty = group.isEmpty :=
  List.isEmpty_map

@[simp] theorem length_renumber (group : Group) :
    (renumber place group).length = group.length :=
  List.length_map _

theorem sorted_renumber (ascends : StrictMono place) (group : Group) :
    sorted (renumber place group) = renumber place (sorted group) := by
  have members :
      (renumber place group).map (fun member =>
        { member with dependents := ascending member.dependents }) =
      renumber place (group.map fun member =>
        { member with dependents := ascending member.dependents }) := by
    simp [renumber, Member.renumber, ascending_map ascends]
  rw [sorted, members]
  refine (List.map_mergeSort fun one _ other _ => ?_).symm
  simp [ascends.le_iff_le]

theorem smallest?_renumber (ascends : StrictMono place) (group : Group) :
    smallest? (renumber place group) = (smallest? group).map place := by
  cases group with
  | nil => rfl
  | cons member rest =>
      obtain ⟨id, least, among, below⟩ :=
        exists_smallest (List.cons_ne_nil member rest)
      rw [least, Option.map_some, smallest?, List.min?_eq_some_iff,
        ids_renumber]
      refine ⟨List.mem_map_of_mem among, ?_⟩
      intro other found
      obtain ⟨own, own_among, rfl⟩ := List.mem_map.mp found
      exact ascends.monotone (below own own_among)

theorem precedes_renumber (ascends : StrictMono place) (one other : Group) :
    precedes (renumber place one) (renumber place other) =
      precedes one other := by
  simp only [precedes, smallest?_renumber ascends, length_renumber]
  cases smallest? one with
  | none => rfl
  | some first =>
      cases smallest? other with
      | none => rfl
      | some second =>
          simp [ascends.lt_iff_lt, ascends.injective.eq_iff]

end Group

theorem sortGroups_renumber (ascends : StrictMono place)
    (groups : List Group) :
    sortGroups (groups.map (Group.renumber place)) =
      (sortGroups groups).map (Group.renumber place) := by
  refine (List.map_mergeSort fun one _ other _ => ?_).symm
  exact (Group.precedes_renumber ascends one other).symm

theorem arrange_renumber (ascends : StrictMono place) (groups : List Group) :
    arrange (groups.map (Group.renumber place)) =
      (arrange groups).map (Group.renumber place) := by
  rw [arrange, arrange, ← sortGroups_renumber ascends, List.filter_map,
    List.map_map, List.map_map]
  congr 2
  · funext group
    exact Group.sorted_renumber ascends group
  · congr 1
    funext group
    simp

/-! ### Residues under other numbers -/

/-- A member of a residue under other numbers. -/
def ResidueNode.renumber (place : ComponentId → ComponentId)
    (node : ResidueNode) : ResidueNode where
  id := place node.id
  dependencies := node.dependencies.map place

namespace Residue

theorem commonDependencies_renumber (injective : place.Injective)
    (nodes : Residue) :
    commonDependencies (nodes.map (ResidueNode.renumber place)) =
      (commonDependencies nodes).map place := by
  cases nodes with
  | nil => rfl
  | cons node others =>
      simp [commonDependencies, ResidueNode.renumber, List.filter_map,
        Function.comp_def, List.all_map, injective.eq_iff]

theorem sharedMembers_renumber (injective : place.Injective)
    (nodes : Residue) :
    sharedMembers (nodes.map (ResidueNode.renumber place)) =
      Group.renumber place (sharedMembers nodes) := by
  rw [sharedMembers, commonDependencies_renumber injective, sharedMembers,
    Group.renumber, List.map_map, List.map_map]
  simp [Function.comp_def, Member.renumber, ResidueNode.renumber]

/-- Where the dependents are the same under other numbers, so is the company. -/
theorem company_renumber (injective : place.Injective)
    {residue other : Residue} {id : ComponentId}
    (same : other.dependentsOf (place id) =
      (residue.dependentsOf id).map (ResidueNode.renumber place)) :
    other.company (place id) = Group.renumber place (residue.company id) := by
  unfold company
  rw [same]
  cases residue.dependentsOf id with
  | nil => rfl
  | cons first rest =>
      cases rest with
      | nil => rfl
      | cons second rest =>
          exact sharedMembers_renumber injective (first :: second :: rest)

end Residue

/-! ### Graphs with the same components -/

/-- A component but for what it declares to need. -/
def Component.undeclared (component : Component) : Component :=
  { component with dependencies := [] }

/-- The components of a part of a graph stand in the whole under other numbers.
They may differ in what they declare to need, which has become edges. -/
def Graph.Alike (part whole : Graph) (place : ComponentId → ComponentId) :
    Prop :=
  ∀ id, (whole.component? (place id)).map Component.undeclared =
    (part.component? id).map Component.undeclared

namespace Graph.Alike

variable {part whole : Graph}

/-- What is read off components apart from declared needs is the same. -/
theorem map_component? (alike : part.Alike whole place) {β : Type}
    (read : Component → β)
    (blind : ∀ component, read component.undeclared = read component)
    (id : ComponentId) :
    (whole.component? (place id)).map read =
      (part.component? id).map read := by
  have same := congrArg (Option.map read) (alike id)
  simpa only [Option.map_map, Function.comp_def, blind] using same

theorem tag (alike : part.Alike whole place) (id : ComponentId) :
    whole.tag (place id) = part.tag id := by
  rw [Graph.tag, alike.map_component? _ fun _ => rfl]
  rfl

theorem tagsOf (alike : part.Alike whole place) (ids : List ComponentId) :
    whole.tagsOf (ids.map place) = part.tagsOf ids := by
  simp [Graph.tagsOf, alike.tag]

theorem isExternal (alike : part.Alike whole place) (id : ComponentId) :
    whole.isExternal (place id) = part.isExternal id := by
  rw [Graph.isExternal, alike.map_component? _ fun _ => rfl]
  rfl

theorem encapsulation (alike : part.Alike whole place) (id : ComponentId) :
    whole.encapsulation (place id) = part.encapsulation id := by
  rw [Graph.encapsulation, alike.map_component? _ fun _ => rfl]
  rfl

theorem lt_size_iff (alike : part.Alike whole place) {id : ComponentId} :
    place id < whole.size ↔ id < part.size := by
  have same := congrArg Option.isNone (alike id)
  simp only [component?, Option.isNone_map] at same
  rw [Bool.eq_iff_iff, Option.isNone_iff_eq_none, Option.isNone_iff_eq_none,
    List.getElem?_eq_none_iff, List.getElem?_eq_none_iff] at same
  exact not_iff_not.mp (by simpa [size] using same)

/-! ### Groups of one encapsulation -/

variable {groups : List Group}

theorem membersWith (alike : part.Alike whole place) (mode : Encapsulation)
    (group : Group) :
    CodeSplit.membersWith whole mode (Group.renumber place group) =
      Group.renumber place (CodeSplit.membersWith part mode group) := by
  simp only [CodeSplit.membersWith, Group.renumber, List.filter_map]
  congr 2
  funext member
  simp [alike.encapsulation]

theorem majority (alike : part.Alike whole place) (group : Group) :
    CodeSplit.majority whole (Group.renumber place group) =
      CodeSplit.majority part group := by
  simp only [CodeSplit.majority, alike.membersWith, Group.length_renumber]

theorem keptGroups (alike : part.Alike whole place) (groups : List Group) :
    CodeSplit.keptGroups whole (groups.map (Group.renumber place)) =
      (CodeSplit.keptGroups part groups).map (Group.renumber place) := by
  simp only [CodeSplit.keptGroups, List.filter_map, List.map_map]
  congr 1
  · funext group
    simp [alike.majority, alike.membersWith]
  · congr 1
    funext group
    simp

theorem shedWith (alike : part.Alike whole place) (mode : Encapsulation)
    (groups : List Group) :
    CodeSplit.shedWith whole mode (groups.map (Group.renumber place)) =
      Group.renumber place (CodeSplit.shedWith part mode groups) := by
  induction groups with
  | nil => rfl
  | cons group rest ih =>
      rw [List.map_cons, shedWith_cons, shedWith_cons, ih,
        Group.renumber_append, alike.majority, alike.membersWith]
      split <;> rfl

theorem firstOccurrences_renumber (ascends : StrictMono place)
    (placed : List ComponentId) (pool : Group) :
    firstOccurrences (placed.map place) (Group.renumber place pool) =
      Group.renumber place (firstOccurrences placed pool) := by
  induction pool generalizing placed with
  | nil => rfl
  | cons member rest ih =>
      have seen : place member.id ∈ placed.map place ↔ member.id ∈ placed :=
        List.mem_map_of_injective ascends.injective
      rw [Group.renumber, List.map_cons, firstOccurrences, firstOccurrences,
        Member.id_renumber]
      by_cases again : member.id ∈ placed
      · rw [if_pos again, if_pos (seen.mpr again)]
        exact ih placed
      · rw [if_neg again, if_neg (mt seen.mp again)]
        exact congrArg (member.renumber place :: ·) (ih (member.id :: placed))

theorem overflowGroups (alike : part.Alike whole place)
    (ascends : StrictMono place) (groups : List Group)
    (placed : List ComponentId) (modes : List Encapsulation) :
    CodeSplit.overflowGroups whole (groups.map (Group.renumber place))
        (placed.map place) modes =
      (CodeSplit.overflowGroups part groups placed modes).map
        (Group.renumber place) := by
  induction modes generalizing placed with
  | nil => rfl
  | cons mode modes ih =>
      simp only [CodeSplit.overflowGroups, alike.shedWith,
        firstOccurrences_renumber ascends, Group.isEmpty_renumber,
        Group.ids_renumber, Group.sorted_renumber ascends]
      rw [← List.map_append, ih]
      split <;> rfl

/-- Splitting groups does not depend on the numbers. -/
theorem splitByStyling (alike : part.Alike whole place)
    (ascends : StrictMono place) (groups : List Group) :
    CodeSplit.splitByStyling whole (groups.map (Group.renumber place)) =
      (CodeSplit.splitByStyling part groups).map (Group.renumber place) := by
  have kept : ((CodeSplit.keptGroups part groups).map
      (Group.renumber place)).flatMap Group.ids =
      ((CodeSplit.keptGroups part groups).flatMap Group.ids).map place := by
    simp [List.flatMap_map, List.map_flatMap]
  simp only [CodeSplit.splitByStyling, alike.keptGroups, kept,
    alike.overflowGroups ascends, ← List.map_append,
    sortGroups_renumber ascends]

/-! ### Entry modules -/

theorem ofMember (alike : part.Alike whole place) (member : Member) :
    EntryPart.ofMember whole (member.renumber place) =
      EntryPart.ofMember part member := by
  have source :=
    alike.map_component? Component.source (fun _ => rfl) member.id
  simp [EntryPart.ofMember, Member.renumber, alike.tag, alike.tagsOf, source]

/-- What is read off the components of a group is the same. -/
theorem map_components (alike : part.Alike whole place) {β : Type}
    (read : Component → β)
    (blind : ∀ component, read component.undeclared = read component)
    (group : Group) :
    ((Group.ids (Group.renumber place group)).filterMap
        whole.component?).map read =
      ((Group.ids group).filterMap part.component?).map read := by
  rw [Group.ids_renumber, List.map_filterMap, List.map_filterMap,
    List.filterMap_map]
  congr 1
  funext id
  exact alike.map_component? read blind id

/-- The entry module of a group does not show the numbers. -/
theorem ofGroup (alike : part.Alike whole place) (group : Group) :
    Entry.ofGroup whole (Group.renumber place group) =
      Entry.ofGroup part group := by
  have parts : (Group.renumber place group).map (EntryPart.ofMember whole) =
      group.map (EntryPart.ofMember part) := by
    rw [Group.renumber, List.map_map]
    exact List.map_congr_left fun member _ => alike.ofMember member
  have encapsulations :=
    alike.map_components Component.encapsulation (fun _ => rfl) group
  have modes := alike.map_components Component.styleModes (fun _ => rfl) group
  simp only [Entry.ofGroup, parts, encapsulations, List.flatMap_def, modes]

end Graph.Alike

end CodeSplit
