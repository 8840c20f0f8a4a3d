/-
Module: CodeSplit.Graph.Walk
Purpose: depth-first walks through a graph, and a memory of walks.
Main exports:
  Graph.walk, Graph.closureOf, Walks, Walks.walkFrom, Walks.walkFromAll
-/
import CodeSplit.Graph.Basic

namespace CodeSplit

namespace Graph

/-!
A walk keeps the components it has still to visit on a stack, the next one on
top.  It visits every component once and then puts what that component needs on
the stack, so that the dependencies of a component are walked before its later
siblings.  A walk that finds more components than the graph has is stopped by a
fault; this also bounds the number of steps.
-/

/-- Go on with a walk that has visited `order` and has `stack` before it. -/
def walk (graph : Graph) (starts order : List ComponentId) :
    List ComponentId → Except Fault (List ComponentId)
  | [] => .ok order
  | current :: stack =>
      if current ∈ order then
        graph.walk starts order stack
      else if graph.size ≤ order.length then
        .error (.endlessWalk (graph.tagsOf starts) graph.size)
      else
        let visited := order ++ [current]
        let next := (graph.dependencies current).filter (· ∉ visited)
        graph.walk starts visited (next ++ stack)
termination_by stack => (graph.size - order.length, stack.length)
decreasing_by
  · exact Prod.Lex.right _ (by simp)
  · exact Prod.Lex.left _ _ (by simp; omega)

/-- Everything that can be reached from `starts`, the starts included, in the
order a depth-first walk visits it. -/
def closureOf (graph : Graph) (starts : List ComponentId) :
    Except Fault (List ComponentId) :=
  graph.walk starts [] starts

end Graph

/-! ### Remembered walks -/

/-- Walks from single components, each taken once. -/
structure Walks where
  known : List (ComponentId × List ComponentId) := []
deriving Repr

namespace Walks

/-- The number of walks taken. -/
def size (walks : Walks) : Nat :=
  walks.known.length

/-- The walk from a component, remembered or taken now. -/
def walkFrom (walks : Walks) (graph : Graph) (id : ComponentId) :
    Planning (List ComponentId × Walks) :=
  match walks.known.lookup id with
  | some order => pure (order, walks)
  | none => do
      let order ← Planning.ofExcept (graph.closureOf [id])
      Planning.noteAll (order.map fun reached =>
        .walkedThrough (graph.tag reached))
      return (order, ⟨(id, order) :: walks.known⟩)

/-- Members of both lists, without repeating any, those of the first list in
front. -/
def union (one other : List ComponentId) : List ComponentId :=
  other.foldl (fun seen id => if id ∈ seen then seen else seen ++ [id]) one

/-- Go on collecting what can be reached from components, with `reached`
collected already. -/
def walkFromAllOnto (walks : Walks) (graph : Graph)
    (reached : List ComponentId) :
    List ComponentId → Planning (List ComponentId × Walks)
  | [] => pure (reached, walks)
  | id :: rest => do
      let (order, walks) ← walks.walkFrom graph id
      walks.walkFromAllOnto graph (union reached order) rest

/-- Everything that can be reached from components, in the order in which walks
from each of them in turn visit it first. -/
def walkFromAll (walks : Walks) (graph : Graph) (ids : List ComponentId) :
    Planning (List ComponentId × Walks) :=
  walks.walkFromAllOnto graph [] ids

theorem mem_union {one other : List ComponentId} {id : ComponentId} :
    id ∈ union one other ↔ id ∈ one ∨ id ∈ other := by
  unfold union
  induction other generalizing one with
  | nil => simp
  | cons first rest ih =>
      rw [List.foldl_cons, ih]
      split
      · rename_i seen
        simp only [List.mem_cons]
        constructor
        · rintro (found | found) <;> simp [found]
        · rintro (found | rfl | found)
          · exact Or.inl found
          · exact Or.inl seen
          · exact Or.inr found
      · simp [or_assoc]

end Walks

end CodeSplit
