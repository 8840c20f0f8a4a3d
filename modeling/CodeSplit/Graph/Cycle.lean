/-
Module: CodeSplit.Graph.Cycle
Purpose: components that need each other.
Main exports:
  Graph.reachable, Graph.cycles
-/
import CodeSplit.Graph.Walk

namespace CodeSplit.Graph

/-- Everything that can be reached from a component, the component included. -/
def reachable (graph : Graph) (id : ComponentId) : List ComponentId :=
  match graph.closureOf [id] with
  | .ok order => order
  | .error _ => []

/-- Among components with what each one reaches, those that reach `id` and are
reached from it. -/
def classOf (reaches : List (ComponentId × List ComponentId))
    (id : ComponentId) : List ComponentId :=
  let onward := (reaches.lookup id).getD []
  (reaches.filter fun other => other.1 ∈ onward && id ∈ other.2).map (·.1)

/-- The classes of two or more components that reach each other.  Each class is
ascending, and so are the classes by their first members. -/
def cycles (graph : Graph) : List (List ComponentId) :=
  let reaches := graph.ids.map fun id => (id, graph.reachable id)
  graph.ids.filterMap fun id =>
    match classOf reaches id with
    | first :: second :: rest =>
        if first = id then some (first :: second :: rest) else none
    | _ => none

end CodeSplit.Graph
