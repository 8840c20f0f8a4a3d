/-
Module: CodeSplit.Group.Tiers
Purpose: all groups of a graph, claimed in three tiers.
Main exports:
  planGroups
-/
import CodeSplit.Group.Bundles
import CodeSplit.Group.Document
import CodeSplit.Group.Shared

namespace CodeSplit

/-!
Components are claimed in three tiers, each of which sees only what the ones
before it left: first the bundles of the user, then everything that the root
document needs, then the rest of the application with what it needs.  Components
from outside the application get a group only when something claims them.
-/

/-- The components of the application that have no group. -/
def unclaimedRoots (graph : Graph) (placement : Placement) :
    List ComponentId :=
  graph.ids.filter fun id => !graph.isExternal id && !placement.isPlaced id

/-- The groups of a graph, in order. -/
def planGroups (graph : Graph) (bundles : List (List String))
    (walks : Walks) : Planning (List Group × Walks) := do
  let placement ← Placement.addBundles {} graph bundles
  Planning.note (.bundlesPlaced placement.groups.length)
  let (placement, walks) ← placement.addDocument graph walks
  Planning.note (.documentPlaced placement.groups.length)
  let (placement, walks) ←
    placement.addShared graph walks (unclaimedRoots graph placement)
  let groups := placement.sortedGroups
  Planning.note (.groupsPlanned groups.length graph.size)
  return (groups, walks)

end CodeSplit
