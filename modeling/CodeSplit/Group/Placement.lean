/-
Module: CodeSplit.Group.Placement
Purpose: groups under construction, and where each component was put.
Main exports:
  Placement, Placement.add, Placement.push, Placement.sortedGroups
-/
import CodeSplit.Group.Basic
import CodeSplit.Planning

namespace CodeSplit

/-!
A component may join one group only, because a bundler would emit it twice
otherwise.  The placement therefore keeps the group of every component beside
the groups themselves, and refuses a second one.
-/

/-- Groups under construction. -/
structure Placement where
  groups : List Group := []
  /-- The components that have a group, with its index. -/
  placed : List (ComponentId × Nat) := []
deriving Repr, DecidableEq

namespace Placement

/-- The index of the group that a component is in. -/
def groupOf? (placement : Placement) (id : ComponentId) : Option Nat :=
  placement.placed.lookup id

/-- Whether a component has a group. -/
def isPlaced (placement : Placement) (id : ComponentId) : Bool :=
  (placement.groupOf? id).isSome

/-- The smallest index of a group that any of the components is in. -/
def firstGroupOf? (placement : Placement) (ids : List ComponentId) :
    Option Nat :=
  (ids.filterMap placement.groupOf?).min?

/-- Add a member to the group at an index. -/
def add (placement : Placement) (index : Nat) (member : Member) :
    Except Fault Placement :=
  match placement.groupOf? member.id with
  | some earlier => .error (.placedTwice member.id index earlier)
  | none =>
      if index < placement.groups.length then
        .ok
          { groups := placement.groups.modify index (· ++ [member])
            placed := (member.id, index) :: placement.placed }
      else
        .error (.noSuchGroup index)

/-- Add members to the group at an index, up to the first that is refused. -/
def addAll (placement : Placement) (index : Nat) :
    List Member → Placement × Option Fault
  | [] => (placement, none)
  | member :: rest =>
      match placement.add index member with
      | .error fault => (placement, some fault)
      | .ok grown => grown.addAll index rest

/-- Start a group with the given members, or none if there are no members.  When
a member is refused, the group stays with the members before it. -/
def push (placement : Placement) (members : List Member) :
    Placement × Option Fault :=
  if members.isEmpty then (placement, none)
  else
    { placement with groups := placement.groups ++ [[]] }.addAll
      placement.groups.length members

/-- The groups that have members, sorted inside and among each other. -/
def sortedGroups (placement : Placement) : List Group :=
  sortGroups ((placement.groups.filter (!·.isEmpty)).map Group.sorted)

/-- The placement, unless a member was refused. -/
def settle : Placement × Option Fault → Planning Placement
  | (placement, none) => pure placement
  | (_, some fault) => .fail fault

/-- A component that has a group already is refused. -/
theorem add_of_placed {placement : Placement} {index earlier : Nat}
    {member : Member} (held : placement.groupOf? member.id = some earlier) :
    placement.add index member =
      .error (.placedTwice member.id index earlier) := by
  simp [add, held]

/-- Pushing no members changes nothing. -/
@[simp] theorem push_nil (placement : Placement) :
    placement.push [] = (placement, none) := rfl

end Placement

end CodeSplit
