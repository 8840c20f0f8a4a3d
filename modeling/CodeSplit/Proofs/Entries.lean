/-
Module: CodeSplit.Proofs.Entries
Purpose: when groups pass their check, and what the entry modules made of them
  hold.
Main exports:
  checkGroups_eq_ok_iff, Graph.WellFormed.tag_lt, Entry.tags_ofGroup_pairwise,
  Entry.head?_tags_ofGroup
-/
import CodeSplit.Entry
import CodeSplit.Proofs.GroupOrder
import CodeSplit.Proofs.Reach
import Mathlib.Data.String.Basic

namespace CodeSplit

/-! ### The check of finished groups -/

@[simp] theorem map_fst_occurrences (groups : List Group) :
    (occurrences groups).map Prod.fst = groups.flatMap Group.ids := by
  have numbered : groups.flatMap Group.ids =
      (groups.zipIdx.map Prod.fst).flatMap Group.ids := by
    rw [List.zipIdx_map_fst]
  rw [numbered, occurrences, List.map_flatMap, List.flatMap_map]
  simp [Function.comp_def]

/-- What has not been seen is looked up in vain. -/
theorem lookup_eq_none_iff_not_mem {seen : List (ComponentId × Nat)}
    {id : ComponentId} : seen.lookup id = none ↔ id ∉ seen.map Prod.fst := by
  rw [List.lookup_eq_none_iff]
  constructor
  · intro other found
    obtain ⟨pair, among, rfl⟩ := List.mem_map.mp found
    simpa using other pair among
  · intro unseen pair among
    rw [bne_iff_ne]
    rintro rfl
    exact unseen (List.mem_map_of_mem among)

/-- No component occurs again exactly when the components seen and those to come
repeat nothing. -/
theorem firstShared?_eq_none_iff {seen later : List (ComponentId × Nat)}
    (distinct : (seen.map Prod.fst).Nodup) :
    firstShared? seen later = none ↔
      (later.map Prod.fst ++ seen.map Prod.fst).Nodup := by
  induction later generalizing seen with
  | nil => simpa [firstShared?] using distinct
  | cons pair rest ih =>
      obtain ⟨id, index⟩ := pair
      rw [firstShared?, List.map_cons, List.cons_append]
      cases held : seen.lookup id with
      | some earlier =>
          have found : id ∈ seen.map Prod.fst := by
            by_contra unseen
            rw [lookup_eq_none_iff_not_mem.mpr unseen] at held
            cases held
          constructor
          · intro none
            cases none
          · intro fresh
            exact absurd (List.mem_append_right _ found)
              (List.nodup_cons.mp fresh).1
      | none =>
          have unseen := lookup_eq_none_iff_not_mem.mp held
          have distinct' : (((id, index) :: seen).map Prod.fst).Nodup :=
            List.nodup_cons.mpr ⟨unseen, distinct⟩
          show firstShared? ((id, index) :: seen) rest = none ↔ _
          rw [ih distinct', List.map_cons]
          exact List.perm_middle.nodup_iff

theorem firstShared?_nil_eq_none_iff {placed : List (ComponentId × Nat)} :
    firstShared? [] placed = none ↔ (placed.map Prod.fst).Nodup := by
  rw [firstShared?_eq_none_iff (by simp), List.map_nil, List.append_nil]

/-- Reading groups, no component is found again exactly when none is in them
twice. -/
theorem firstShared?_occurrences_eq_none_iff {groups : List Group} :
    firstShared? [] (occurrences groups) = none ↔
      (groups.flatMap Group.ids).Nodup := by
  rw [firstShared?_nil_eq_none_iff, map_fst_occurrences]

/-- The components of the application that are in none of the groups. -/
def unplacedIds (graph : Graph) (groups : List Group) : List ComponentId :=
  graph.ids.filter fun id =>
    !graph.isExternal id && id ∉ groups.flatMap Group.ids

theorem mem_unplacedIds {graph : Graph} {groups : List Group}
    {id : ComponentId} :
    id ∈ unplacedIds graph groups ↔
      id < graph.size ∧ graph.isExternal id = false ∧
        id ∉ groups.flatMap Group.ids := by
  simp [unplacedIds, Graph.mem_ids]

theorem unplacedIds_eq_nil_iff {graph : Graph} {groups : List Group} :
    unplacedIds graph groups = [] ↔
      ∀ id < graph.size, graph.isExternal id = false →
        id ∈ groups.flatMap Group.ids := by
  simp only [List.eq_nil_iff_forall_not_mem, mem_unplacedIds, not_and, not_not]

/-- Groups that repeat no component are checked for components that they leave
out. -/
theorem checkGroups_of_nodup (graph : Graph) {groups : List Group}
    (distinct : (groups.flatMap Group.ids).Nodup) :
    checkGroups graph groups =
      if unplacedIds graph groups = [] then .ok ()
      else .error (.unplaced (graph.tagsOf (unplacedIds graph groups))) := by
  have missing : (graph.ids.filter fun id => !graph.isExternal id &&
      ((occurrences groups).lookup id).isNone) = unplacedIds graph groups := by
    refine List.filter_congr fun id _ => ?_
    congr 1
    rw [Bool.eq_iff_iff, Option.isNone_iff_eq_none, lookup_eq_none_iff_not_mem,
      map_fst_occurrences, decide_eq_true_eq]
  rw [checkGroups, firstShared?_occurrences_eq_none_iff.mpr distinct]
  simp only [missing, List.isEmpty_iff]

/-- Groups pass their check exactly when no component is in them twice and every
component of the application is in one. -/
theorem checkGroups_eq_ok_iff {graph : Graph} {groups : List Group} :
    checkGroups graph groups = .ok () ↔
      (groups.flatMap Group.ids).Nodup ∧
      ∀ id < graph.size, graph.isExternal id = false →
        id ∈ groups.flatMap Group.ids := by
  by_cases distinct : (groups.flatMap Group.ids).Nodup
  · rw [checkGroups_of_nodup graph distinct, and_iff_right distinct,
      ← unplacedIds_eq_nil_iff]
    simp
  · refine iff_of_false (fun passed => ?_) (mt And.left distinct)
    rw [checkGroups] at passed
    split at passed
    · cases passed
    · rename_i unshared
      exact distinct (firstShared?_occurrences_eq_none_iff.mp unshared)

/-! ### Numbers and tags -/

namespace Graph

variable {graph : Graph} {id other : ComponentId}

/-- The tags of a graph, by number. -/
theorem getElem?_tags (known : id < graph.size) :
    graph.tags[id]? = some (graph.tag id) := by
  simp only [tags, tag, component?, List.getElem?_map]
  rw [List.getElem?_eq_getElem known]
  rfl

/-- A tag stands at a number when it is the tag of that component. -/
theorem getElem?_tags_eq_some_iff {tag : String} :
    graph.tags[id]? = some tag ↔ id < graph.size ∧ graph.tag id = tag := by
  constructor
  · intro at_id
    have known : id < graph.size := by
      simpa [tags, size] using (List.getElem?_eq_some_iff.mp at_id).1
    rw [getElem?_tags known] at at_id
    exact ⟨known, Option.some.inj at_id⟩
  · intro given
    obtain ⟨known, rfl⟩ := given
    exact getElem?_tags known

/-- Components with a larger number have a larger tag. -/
theorem WellFormed.tag_lt (formed : graph.WellFormed) (below : id < other)
    (known : other < graph.size) : graph.tag id < graph.tag other := by
  have first := List.getElem?_eq_some_iff.mp
    (getElem?_tags (lt_trans below known))
  have second := List.getElem?_eq_some_iff.mp (getElem?_tags known)
  obtain ⟨inRange, same⟩ := first
  obtain ⟨inRange', same'⟩ := second
  rw [← same, ← same']
  exact List.pairwise_iff_getElem.mp formed.tags_ascending id other inRange
    inRange' below

theorem WellFormed.tag_le (formed : graph.WellFormed) (below : id ≤ other)
    (known : other < graph.size) : graph.tag id ≤ graph.tag other := by
  rcases Nat.eq_or_lt_of_le below with rfl | below
  · exact le_rfl
  · exact le_of_lt (formed.tag_lt below known)

/-- A component has its tag for itself. -/
theorem WellFormed.tag_injective (formed : graph.WellFormed)
    (known : id < graph.size) (known' : other < graph.size)
    (same : graph.tag id = graph.tag other) : id = other := by
  rcases Nat.lt_trichotomy id other with below | same' | above
  · exact absurd same (ne_of_lt (formed.tag_lt below known'))
  · exact same'
  · exact absurd same.symm (ne_of_lt (formed.tag_lt above known))

end Graph

/-! ### The tags of an entry module -/

namespace Entry

variable {graph : Graph} {group : Group}

/-- An entry module holds the tags of its group. -/
theorem tags_ofGroup_perm (graph : Graph) (group : Group) :
    (ofGroup graph group).tags.Perm (graph.tagsOf (Group.ids group)) := by
  apply ((List.mergeSort_perm _ _).map EntryPart.tag).trans
  rw [Graph.tagsOf, Group.ids, List.map_map, List.map_map]
  exact List.Perm.of_eq rfl

/-- An entry module has its tags in order. -/
theorem tags_ofGroup_pairwise_le (graph : Graph) (group : Group) :
    (ofGroup graph group).tags.Pairwise (· ≤ ·) :=
  map_mergeSort_pairwise EntryPart.tag _

/-- Where the members of a group are different components, its tags are strictly
ascending. -/
theorem tags_ofGroup_pairwise (formed : graph.WellFormed)
    (distinct : (Group.ids group).Nodup)
    (known : ∀ id ∈ Group.ids group, id < graph.size) :
    (ofGroup graph group).tags.Pairwise (· < ·) := by
  have different : (ofGroup graph group).tags.Nodup := by
    apply (tags_ofGroup_perm graph group).symm.nodup
    refine List.Nodup.map_on (fun id found other found' same => ?_) distinct
    exact formed.tag_injective (known id found) (known other found') same
  exact ((tags_ofGroup_pairwise_le graph group).and different).imp
    fun both => lt_of_le_of_ne both.1 both.2

/-- The first tag of an entry module is that of the smallest member. -/
theorem head?_tags_ofGroup (formed : graph.WellFormed)
    (known : ∀ id ∈ Group.ids group, id < graph.size) {id : ComponentId}
    (least : Group.smallest? group = some id) :
    (ofGroup graph group).tags.head? = some (graph.tag id) := by
  have perm := tags_ofGroup_perm graph group
  have ordered := tags_ofGroup_pairwise_le graph group
  have found : id ∈ Group.ids group := List.min?_mem least
  have own : graph.tag id ∈ (ofGroup graph group).tags :=
    perm.mem_iff.mpr (List.mem_map_of_mem found)
  cases shape : (ofGroup graph group).tags with
  | nil => simp [shape] at own
  | cons first rest =>
      rw [shape] at perm ordered own
      have among : first ∈ graph.tagsOf (Group.ids group) :=
        perm.mem_iff.mp List.mem_cons_self
      obtain ⟨other, other_found, rfl⟩ := List.mem_map.mp among
      have above : graph.tag id ≤ graph.tag other :=
        formed.tag_le ((List.min?_eq_some_iff.mp least).2 other other_found)
          (known other other_found)
      have below : graph.tag other ≤ graph.tag id := by
        rcases List.mem_cons.mp own with same | later
        · exact le_of_eq same.symm
        · exact (List.pairwise_cons.mp ordered).1 _ later
      rw [List.head?_cons, le_antisymm below above]

end Entry

end CodeSplit
