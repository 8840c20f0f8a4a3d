/-
Module: CodeSplit.Group.Bundles
Purpose: groups for the bundles that the user asks for.
Main exports:
  Placement.addBundles
-/
import CodeSplit.Graph.Basic
import CodeSplit.Group.Placement

namespace CodeSplit.Placement

/-!
Bundles are placed by size, larger ones first, and bundles of the same size in
the order they are declared in.  A component named by several bundles so goes to
the largest of them.  Size counts the entries as declared, with repetitions and
unknown tags.
-/

/-- The bundles that have entries, with their indices, larger ones first. -/
def orderBundles (bundles : List (List String)) :
    List (List String × Nat) :=
  (bundles.zipIdx.filter fun bundle => !bundle.1.isEmpty).mergeSort
    fun one other => other.1.length ≤ one.1.length

/-- The components that a bundle claims, in the order of its entries; `claimed`
holds those of the entries before. -/
def claim (placement : Placement) (graph : Graph) (bundle : List String)
    (index : Nat) (claimed : List ComponentId) :
    List String → Planning (List ComponentId)
  | [] => pure claimed
  | entry :: rest =>
      let tag := normalizeTag entry
      match graph.idOf? tag with
      | none => do
          Planning.report (.unknownBundleTag tag index bundle)
          placement.claim graph bundle index claimed rest
      | some id =>
          if placement.isPlaced id || id ∈ claimed then do
            Planning.note (.entrySkipped tag index)
            placement.claim graph bundle index claimed rest
          else
            placement.claim graph bundle index (claimed ++ [id]) rest

/-- Place bundles, with their indices, in the given order. -/
def addOrderedBundles (placement : Placement) (graph : Graph) :
    List (List String × Nat) → Planning Placement
  | [] => pure placement
  | (bundle, index) :: rest => do
      let claimed ← placement.claim graph bundle index [] bundle
      let placement ←
        settle (placement.push (claimed.map fun id => { id := id }))
      placement.addOrderedBundles graph rest

/-- Place the bundles of the user. -/
def addBundles (placement : Placement) (graph : Graph)
    (bundles : List (List String)) : Planning Placement :=
  placement.addOrderedBundles graph (orderBundles bundles)

end CodeSplit.Placement
