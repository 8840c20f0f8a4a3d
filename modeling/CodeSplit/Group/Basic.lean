/-
Module: CodeSplit.Group.Basic
Purpose: groups of components that are loaded together, and their order.
Main exports:
  Member, Group, Group.smallest?, Group.sorted, sortGroups
-/
import CodeSplit.Ascending
import CodeSplit.Fault

namespace CodeSplit

/-- A component in a group. -/
structure Member where
  id : ComponentId
  /-- The components that need it and so caused it to be where it is. -/
  dependents : List ComponentId := []
deriving Repr, DecidableEq, Inhabited

/-- Components that are loaded together. -/
abbrev Group := List Member

namespace Group

/-- The numbers of the members. -/
def ids (group : Group) : List ComponentId :=
  group.map (·.id)

/-- Whether a component is a member. -/
def contains (group : Group) (id : ComponentId) : Bool :=
  group.any (·.id = id)

/-- The smallest number of a member. -/
def smallest? (group : Group) : Option ComponentId :=
  (ids group).min?

/-- The members by number, each with ascending dependents. -/
def sorted (group : Group) : Group :=
  (group.map fun member =>
    { member with dependents := ascending member.dependents }).mergeSort
      fun one other => one.id ≤ other.id

/-- Whether a group may stand before another: groups are ordered by their
smallest member and then by size, and empty groups come first. -/
def precedes (one other : Group) : Bool :=
  match smallest? one, smallest? other with
  | none, _ => true
  | some _, none => false
  | some first, some second =>
      first < second || first = second && one.length ≤ other.length

end Group

/-- Groups in their order; groups that are alike in it keep theirs. -/
def sortGroups (groups : List Group) : List Group :=
  groups.mergeSort Group.precedes

theorem Group.contains_iff {group : Group} {id : ComponentId} :
    Group.contains group id = true ↔ id ∈ Group.ids group := by
  simp [Group.contains, Group.ids]

end CodeSplit
