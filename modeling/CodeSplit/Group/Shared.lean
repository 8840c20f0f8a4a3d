/-
Module: CodeSplit.Group.Shared
Purpose: groups for the components that no bundle and no document claims, with
  what several of them share factored out.
Main exports:
  Residue, Residue.of, Placement.addShared
-/
import CodeSplit.Graph.Walk
import CodeSplit.Group.Placement

namespace CodeSplit

/-!
The residue is what can be reached from some roots, without the components that
have a group.  Its members are taken in the order of the walk, and each one that
has no group yet is placed by how many members of the residue need it:

* none: it starts a group of its own;
* one: it joins the group of that one, which is started where there is none;
* several: everything that all of those need directly is shared, and joins one
  group, the first in which any of it is already, or else a new one.
-/

/-- A member of the residue. -/
structure ResidueNode where
  id : ComponentId
  /-- What it needs directly, as far as that is in the residue. -/
  dependencies : List ComponentId
deriving Repr, DecidableEq

/-- The components that are left to be placed, in the order of a walk. -/
abbrev Residue := List ResidueNode

namespace Residue

/-- The residue of the members given. -/
def ofMembers (graph : Graph) (members : List ComponentId) : Residue :=
  members.map fun id =>
    { id := id
      dependencies := (graph.dependencies id).filter (· ∈ members) }

/-- The members that need a component. -/
def dependentsOf (residue : Residue) (id : ComponentId) : Residue :=
  residue.filter fun node => id ∈ node.dependencies

/-- What all of the given nodes need directly, in the order in which the first
one names it. -/
def commonDependencies : Residue → List ComponentId
  | [] => []
  | node :: others =>
      node.dependencies.filter fun id =>
        others.all fun other => id ∈ other.dependencies

/-- What all of the given nodes need directly, as members that depend on
them. -/
def sharedMembers (nodes : Residue) : List Member :=
  (commonDependencies nodes).map fun id =>
    { id := id, dependents := nodes.map (·.id) }

end Residue

namespace Placement

/-- Place what several nodes share. -/
def addCommon (placement : Placement) (graph : Graph) (nodes : Residue) :
    Planning Placement :=
  let common := Residue.sharedMembers nodes
  let fresh := common.filter fun member => !placement.isPlaced member.id
  let tags := graph.tagsOf (Group.ids fresh)
  match placement.firstGroupOf? (Group.ids common) with
  | some index => do
      Planning.note (.sharedMerged tags index)
      settle (placement.addAll index fresh)
  | none => do
      Planning.note (.sharedGroup tags)
      settle (placement.push fresh)

/-- Place a component that has no group, by the members of the residue that need
it. -/
def addByDependents (placement : Placement) (graph : Graph)
    (id : ComponentId) : Residue → Planning Placement
  | [] => do
      Planning.note (.neededByNone (graph.tag id))
      settle (placement.push [{ id := id }])
  | [parent] => do
      Planning.note (.neededByOne (graph.tag id) (graph.tag parent.id))
      let member : Member := { id := id, dependents := [parent.id] }
      match placement.groupOf? parent.id with
      | some index => Planning.ofExcept (placement.add index member)
      | none => settle (placement.push [{ id := parent.id }, member])
  | nodes => placement.addCommon graph nodes

/-- Place the given members of a residue, in order. -/
def addResidue (placement : Placement) (graph : Graph) (residue : Residue) :
    Residue → Planning Placement
  | [] => pure placement
  | node :: rest =>
      if placement.isPlaced node.id then
        placement.addResidue graph residue rest
      else do
        let placement ←
          placement.addByDependents graph node.id
            (residue.dependentsOf node.id)
        placement.addResidue graph residue rest

/-- Place everything that can be reached from the roots and has no group
yet. -/
def addShared (placement : Placement) (graph : Graph) (walks : Walks)
    (roots : List ComponentId) : Planning (Placement × Walks) := do
  let (reached, walks) ← walks.walkFromAll graph roots
  let residue :=
    Residue.ofMembers graph (reached.filter fun id => !placement.isPlaced id)
  Planning.note (.factoringStarted residue.length roots.length)
  let placement ← placement.addResidue graph residue residue
  return (placement, walks)

end Placement

end CodeSplit
