/-
Module: CodeSplit.Group.Document
Purpose: the group of what the root document needs.
Main exports:
  Placement.addDocument
-/
import CodeSplit.Graph.Walk
import CodeSplit.Group.Placement

namespace CodeSplit.Placement

/-- Place everything that the root document needs, in one group, apart from
what has a group already. -/
def addDocument (placement : Placement) (graph : Graph) (walks : Walks) :
    Planning (Placement × Walks) :=
  if graph.documentRoots.isEmpty then pure (placement, walks)
  else do
    let (reached, walks) ← walks.walkFromAll graph graph.documentRoots
    let members :=
      ascending (reached.filter fun id => !placement.isPlaced id)
    Planning.note (.documentGroup (graph.tagsOf members))
    let placement ←
      settle (placement.push (members.map fun id => { id := id }))
    return (placement, walks)

end CodeSplit.Placement
