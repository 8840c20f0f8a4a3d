/-
Module: CodeSplit.Proofs.GroupOrder
Purpose: sorting groups changes their order only, and puts those without common
  components in the strict order of their smallest components.
Main exports:
  sortGroups_perm, sortGroups_smallest_lt, Group.mem_sorted
-/
import CodeSplit.Proofs.Ascending
import CodeSplit.Proofs.Placement
import Mathlib.Data.List.Pairwise
import Mathlib.Data.List.Perm.Basic

namespace CodeSplit

namespace Group

/-! ### One group -/

/-- Sorting a group keeps its members, with their dependents ascending. -/
theorem mem_sorted {group : Group} {member : Member} :
    member ∈ sorted group ↔
      ∃ old ∈ group,
        { old with dependents := ascending old.dependents } = member := by
  rw [sorted, List.mem_mergeSort, List.mem_map]

theorem ids_sorted_perm (group : Group) :
    (ids (sorted group)).Perm (ids group) := by
  apply ((List.mergeSort_perm _ _).map Member.id).trans
  rw [List.map_map]
  exact List.Perm.of_eq rfl

theorem mem_ids_sorted {group : Group} {id : ComponentId} :
    id ∈ ids (sorted group) ↔ id ∈ ids group :=
  (ids_sorted_perm group).mem_iff

theorem sorted_eq_nil_iff {group : Group} : sorted group = [] ↔ group = [] := by
  rw [← List.length_eq_zero_iff, ← List.length_eq_zero_iff, sorted,
    List.length_mergeSort, List.length_map]

theorem isEmpty_sorted (group : Group) :
    (sorted group).isEmpty = group.isEmpty := by
  rw [Bool.eq_iff_iff, List.isEmpty_iff, List.isEmpty_iff, sorted_eq_nil_iff]

/-- A sorted group that repeats no component is strictly ascending. -/
theorem ids_sorted_pairwise_lt {group : Group} (distinct : (ids group).Nodup) :
    (ids (sorted group)).Pairwise (· < ·) := by
  rw [ids, sorted]
  apply map_mergeSort_pairwise_lt Member.id
  rw [List.map_map]
  exact distinct

/-- Every group with members has a smallest one, which is among them. -/
theorem exists_smallest {group : Group} (some_member : group ≠ []) :
    ∃ id, smallest? group = some id ∧ id ∈ ids group ∧
      ∀ other ∈ ids group, id ≤ other := by
  have some_id : ids group ≠ [] := by simpa [ids] using some_member
  obtain ⟨id, least⟩ := Option.isSome_iff_exists.mp
    (List.isSome_min?_of_ne_nil some_id)
  exact ⟨id, least, List.min?_mem least,
    fun other => (List.min?_eq_some_iff.mp least).2 other⟩

/-- Of groups without common components, one that holds a component is the only
one that does. -/
theorem eq_of_mem_ids {groups : List Group}
    (distinct : (groups.flatMap ids).Nodup) {one other : Group}
    (among : one ∈ groups) (among' : other ∈ groups) {id : ComponentId}
    (found : id ∈ ids one) (found' : id ∈ ids other) : one = other := by
  have symmetric : Std.Symm (Function.onFun List.Disjoint ids) :=
    ⟨fun _ _ apart _ inOne inOther => apart inOther inOne⟩
  by_contra different
  exact (List.nodup_flatMap.mp distinct).2.forall among among' different found
    found'

/-! ### The order of groups -/

/-- A group without members precedes every group. -/
theorem precedes_of_none {one : Group} (least : smallest? one = none)
    (other : Group) : precedes one other = true := by
  simp [precedes, least]

/-- A group with members precedes no group without. -/
theorem exists_smallest_of_precedes {one other : Group} {first : Nat}
    (least : smallest? one = some first) (before : precedes one other = true) :
    ∃ second, smallest? other = some second := by
  cases least' : smallest? other with
  | none => simp [precedes, least, least'] at before
  | some second => exact ⟨second, rfl⟩

theorem precedes_iff {one other : Group} {first second : Nat}
    (least : smallest? one = some first)
    (least' : smallest? other = some second) :
    precedes one other = true ↔
      first < second ∨ first = second ∧ one.length ≤ other.length := by
  simp [precedes, least, least']

theorem precedes_trans (one other last : Group)
    (first : precedes one other = true) (second : precedes other last = true) :
    precedes one last = true := by
  cases least : smallest? one with
  | none => exact precedes_of_none least last
  | some id =>
      obtain ⟨id', least'⟩ := exists_smallest_of_precedes least first
      obtain ⟨id'', least''⟩ := exists_smallest_of_precedes least' second
      rw [precedes_iff least least'] at first
      rw [precedes_iff least' least''] at second
      rw [precedes_iff least least'']
      omega

theorem precedes_total (one other : Group) :
    (precedes one other || precedes other one) = true := by
  rw [Bool.or_eq_true]
  cases least : smallest? one with
  | none => exact Or.inl (precedes_of_none least other)
  | some id =>
      cases least' : smallest? other with
      | none => exact Or.inr (precedes_of_none least' one)
      | some id' =>
          rw [precedes_iff least least', precedes_iff least' least]
          omega

/-- Of two groups in order, the first has the smaller smallest member, unless
they share it. -/
theorem smallest_lt_of_precedes {one other : Group}
    (before : precedes one other = true) (some_one : one ≠ [])
    (some_other : other ≠ []) (apart : (ids one).Disjoint (ids other)) :
    ∃ first second, smallest? one = some first ∧
      smallest? other = some second ∧ first < second := by
  obtain ⟨first, least, among, _⟩ := exists_smallest some_one
  obtain ⟨second, least', among', _⟩ := exists_smallest some_other
  refine ⟨first, second, least, least', ?_⟩
  have different : first ≠ second := fun same => apart among (same ▸ among')
  rcases (precedes_iff least least').mp before with below | ⟨same, _⟩
  · exact below
  · exact absurd same different

end Group

/-! ### Sorted groups -/

theorem sortGroups_perm (groups : List Group) :
    (sortGroups groups).Perm groups :=
  List.mergeSort_perm groups Group.precedes

theorem mem_sortGroups {groups : List Group} {group : Group} :
    group ∈ sortGroups groups ↔ group ∈ groups :=
  (sortGroups_perm groups).mem_iff

theorem ids_sortGroups_perm (groups : List Group) :
    ((sortGroups groups).flatMap Group.ids).Perm (groups.flatMap Group.ids) :=
  (sortGroups_perm groups).flatMap_right _

/-- Sorted groups stand in their order. -/
theorem sortGroups_pairwise (groups : List Group) :
    (sortGroups groups).Pairwise fun one other =>
      Group.precedes one other = true :=
  List.pairwise_mergeSort Group.precedes_trans Group.precedes_total groups

/-- Groups without common components stand in the strict order of their smallest
members. -/
theorem sortGroups_smallest_lt {groups : List Group} (none_empty : [] ∉ groups)
    (distinct : (groups.flatMap Group.ids).Nodup) :
    (sortGroups groups).Pairwise fun one other =>
      ∃ first second, Group.smallest? one = some first ∧
        Group.smallest? other = some second ∧ first < second := by
  have apart :=
    (List.nodup_flatMap.mp ((ids_sortGroups_perm groups).symm.nodup distinct)).2
  have ordered := sortGroups_pairwise groups
  have nonempty {group : Group} (found : group ∈ sortGroups groups) :
      group ≠ [] := by
    rintro rfl
    exact none_empty (mem_sortGroups.mp found)
  refine (ordered.and apart).imp_of_mem fun found found' both => ?_
  exact Group.smallest_lt_of_precedes both.1 (nonempty found)
    (nonempty found') both.2

/-! ### Groups of a placement in order -/

namespace Placement

variable {placement : Placement}

/-- Where no group is empty, the groups in order are those of the placement,
each sorted. -/
theorem sortedGroups_perm (none_empty : [] ∉ placement.groups) :
    placement.sortedGroups.Perm (placement.groups.map Group.sorted) := by
  have all : placement.groups.filter (!·.isEmpty) = placement.groups := by
    rw [List.filter_eq_self]
    intro group found
    cases group with
    | nil => exact absurd found none_empty
    | cons => rfl
  rw [sortedGroups, all]
  exact sortGroups_perm _

theorem mem_sortedGroups (none_empty : [] ∉ placement.groups) {group : Group} :
    group ∈ placement.sortedGroups ↔
      ∃ old ∈ placement.groups, Group.sorted old = group := by
  rw [(sortedGroups_perm none_empty).mem_iff, List.mem_map]

theorem nil_not_mem_sortedGroups (none_empty : [] ∉ placement.groups) :
    [] ∉ placement.sortedGroups := by
  rw [mem_sortedGroups none_empty]
  intro given
  obtain ⟨old, found, empty⟩ := given
  exact none_empty (Group.sorted_eq_nil_iff.mp empty ▸ found)

/-- Putting the groups in order keeps which components are placed. -/
theorem ids_sortedGroups_perm (none_empty : [] ∉ placement.groups) :
    (placement.sortedGroups.flatMap Group.ids).Perm placement.ids := by
  apply ((sortedGroups_perm none_empty).flatMap_right _).trans
  rw [List.flatMap_map]
  exact List.Perm.flatMap_left _ fun group _ => Group.ids_sorted_perm group

end Placement

end CodeSplit
