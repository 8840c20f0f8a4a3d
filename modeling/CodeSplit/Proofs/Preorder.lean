/-
Module: CodeSplit.Proofs.Preorder
Purpose: the walk with a stack visits components in the order of the recursive
  depth-first walk.
Main exports:
  Graph.visitAll, Graph.preorder, Graph.walk_eq_visitAll,
  Graph.closureOf_eq_preorder
-/
import CodeSplit.Proofs.Linking
import Mathlib

namespace CodeSplit.Graph

/-!
A recursive depth-first walk goes through components in turn.  It passes over
those that it has visited; any other it visits first, then it walks through all
that this one needs, and only then it turns to the next.  The recursion ends,
also around cycles, since every component that is entered leaves fewer that have
not been visited.
-/

/-! ### The recursive walk -/

/-- The components that have not been visited. -/
def unvisited (graph : Graph) (seen : List ComponentId) : List ComponentId :=
  graph.ids.filter (· ∉ seen)

variable {graph : Graph} {seen order : List ComponentId}

/-- Who has visited more has no more to visit. -/
theorem length_unvisited_le (kept : seen ⊆ order) :
    (graph.unvisited order).length ≤ (graph.unvisited seen).length := by
  apply (List.monotone_filter_right graph.ids _).length_le
  intro id fresh
  rw [decide_eq_true_eq] at fresh ⊢
  exact fun found => fresh (kept found)

/-- Visiting a component leaves fewer to visit. -/
theorem length_unvisited_lt {id : ComponentId} (known : id < graph.size)
    (fresh : id ∉ seen) :
    (graph.unvisited (seen ++ [id])).length <
      (graph.unvisited seen).length := by
  have others : graph.unvisited (seen ++ [id]) =
      (graph.unvisited seen).filter (· ≠ id) := by
    rw [unvisited, unvisited, List.filter_filter]
    refine List.filter_congr fun other _ => ?_
    simp [and_comm]
  rw [others, List.length_filter_lt_length_iff_exists]
  exact ⟨id, List.mem_filter.mpr ⟨mem_ids.mpr known, by simpa using fresh⟩,
    by simp⟩

/-- What the recursion descends on: the components left to visit, and then those
to go through in turn. -/
theorem decreases_of_subset (kept : seen ⊆ order) {ahead behind : Nat}
    (fewer : ahead < behind) :
    Prod.Lex (· < ·) (· < ·) ((graph.unvisited order).length, ahead)
      ((graph.unvisited seen).length, behind) :=
  Prod.lex_def.mpr ((Nat.lt_or_eq_of_le (length_unvisited_le kept)).imp_right
    fun same => ⟨same, fewer⟩)

/-- Walk through components in turn and through all that each of them needs, in
ascending order, before the next.  What was visited before stays visited. -/
def visitAll (graph : Graph) (seen : List ComponentId) :
    List ComponentId → { order : List ComponentId // seen ⊆ order }
  | [] => ⟨seen, List.Subset.refl seen⟩
  | current :: rest =>
      if current ∈ seen then graph.visitAll seen rest
      else
        let below := graph.visitAll (seen ++ [current])
          (ascending (graph.dependencies current))
        let after := graph.visitAll below.1 rest
        ⟨after.1, fun _ found =>
          after.2 (below.2 (List.mem_append_left _ found))⟩
termination_by ahead => ((graph.unvisited seen).length, ahead.length)
decreasing_by
  · exact Prod.Lex.right _ (Nat.lt_succ_self _)
  · rename_i fresh
    by_cases known : current < graph.size
    · exact Prod.Lex.left _ _ (length_unvisited_lt known fresh)
    · rw [dependencies_of_size_le (Nat.le_of_not_lt known)]
      exact decreases_of_subset (List.subset_append_left _ _) (Nat.succ_pos _)
  · apply decreases_of_subset _ (Nat.lt_succ_self _)
    exact fun _ found => below.2 (List.mem_append_left _ found)

/-- The components that are visited from the given ones, in order. -/
def preorder (graph : Graph) (starts : List ComponentId) : List ComponentId :=
  (graph.visitAll [] starts).1

/-! ### Where the recursive walk goes -/

theorem visitAll_nil (graph : Graph) (seen : List ComponentId) :
    (graph.visitAll seen []).1 = seen := by
  rw [visitAll]

/-- A component that was visited before is passed over. -/
theorem visitAll_cons_of_mem {id : ComponentId} (visited : id ∈ seen)
    (rest : List ComponentId) :
    (graph.visitAll seen (id :: rest)).1 = (graph.visitAll seen rest).1 := by
  rw [visitAll, if_pos visited]

/-- A new component is visited with all that it needs before the others. -/
theorem visitAll_cons_of_not_mem {id : ComponentId} (fresh : id ∉ seen)
    (rest : List ComponentId) :
    (graph.visitAll seen (id :: rest)).1 =
      (graph.visitAll (graph.visitAll (seen ++ [id])
        (ascending (graph.dependencies id))).1 rest).1 := by
  rw [visitAll, if_neg fresh]

/-- A walk goes through the first components before it turns to the others. -/
theorem visitAll_append (graph : Graph) (seen first others : List ComponentId) :
    (graph.visitAll seen (first ++ others)).1 =
      (graph.visitAll (graph.visitAll seen first).1 others).1 := by
  induction first generalizing seen with
  | nil => rw [List.nil_append, visitAll_nil]
  | cons id rest ih =>
      rw [List.cons_append]
      by_cases visited : id ∈ seen
      · rw [visitAll_cons_of_mem visited, visitAll_cons_of_mem visited, ih]
      · rw [visitAll_cons_of_not_mem visited, visitAll_cons_of_not_mem visited,
          ih]

/-- Leaving out components that were visited before does not change a walk. -/
theorem visitAll_filter (kept : seen ⊆ order) (ahead : List ComponentId) :
    (graph.visitAll order (ahead.filter (· ∉ seen))).1 =
      (graph.visitAll order ahead).1 := by
  induction ahead generalizing order with
  | nil => rfl
  | cons id rest ih =>
      by_cases before : id ∈ seen
      · rw [List.filter_cons_of_neg (by simpa using before),
          visitAll_cons_of_mem (kept before), ih kept]
      · rw [List.filter_cons_of_pos (by simpa using before)]
        by_cases visited : id ∈ order
        · rw [visitAll_cons_of_mem visited, visitAll_cons_of_mem visited,
            ih kept]
        · have still : seen ⊆ (graph.visitAll (order ++ [id])
              (ascending (graph.dependencies id))).1 := fun _ found =>
            (graph.visitAll _ _).2 (List.mem_append_left _ (kept found))
          rw [visitAll_cons_of_not_mem visited,
            visitAll_cons_of_not_mem visited, ih still]

/-! ### Both walks -/

/-- What stands on the stack of a walk is walked through recursively, the next
component first. -/
theorem walk_eq_visitAll (formed : graph.WellFormed)
    (starts order stack : List ComponentId)
    (walking : Walking graph order stack) :
    graph.walk starts order stack = .ok (graph.visitAll order stack).1 := by
  induction order, stack using walk.induct graph with
  | case1 order => rw [walk, visitAll_nil]
  | case2 order current stack seen ih =>
      rw [walk, if_pos seen, ih (walking.skip seen), visitAll_cons_of_mem seen]
  | case3 order current stack fresh full =>
      exact absurd (walking.length_lt fresh) (Nat.not_lt.mpr full)
  | case4 order current stack fresh room visited next ih =>
      have ordered : ascending (graph.dependencies current) =
          graph.dependencies current :=
        ascending_eq_of_mem_iff (formed.dependencies_ascending current)
          fun _ => Iff.rfl
      rw [walk, if_neg fresh, if_neg room, ih (walking.visit formed fresh),
        visitAll_append, visitAll_filter (List.Subset.refl visited),
        visitAll_cons_of_not_mem fresh, ordered]

/-- From components of a graph, the walk with a stack ends without a fault.  It
finds what can be reached from any of them, each component once, in the order of
the recursive walk. -/
theorem closureOf_eq_preorder {components : List Component}
    {mentions : Mentions} {documentTags : List String}
    (built : (build components mentions documentTags).outcome = .ok graph)
    {starts : List ComponentId} (known : ∀ id ∈ starts, id < graph.size) :
    graph.closureOf starts = .ok (graph.preorder starts) ∧
      (graph.preorder starts).Nodup ∧
      ∀ id, id ∈ graph.preorder starts ↔
        ∃ start ∈ starts, graph.Reaches start id := by
  have formed := wellFormed_of_build built
  have went : graph.closureOf starts = .ok (graph.preorder starts) :=
    walk_eq_visitAll formed starts [] starts (Walking.start known)
  obtain ⟨order, went', distinct, found⟩ := exists_closureOf formed starts known
  obtain rfl := Except.ok.inj (went.symm.trans went')
  exact ⟨went, distinct, found⟩

/-- Components of an archive, in the order of their tags: an index that leads to
a page directly and through two others, and from there back to itself. -/
def archiveComponents : List Component :=
  [{ tag := "doc-index", source := ⟨"index.js"⟩,
     dependencies := ["doc-page", "doc-list", "doc-tree"] },
   { tag := "doc-list", source := ⟨"list.js"⟩, dependencies := ["doc-page"] },
   { tag := "doc-page", source := ⟨"page.js"⟩,
     dependencies := ["doc-index"] },
   { tag := "doc-search", source := ⟨"search.js"⟩,
     dependencies := ["doc-tree"] },
   { tag := "doc-tree", source := ⟨"tree.js"⟩, dependencies := ["doc-page"] }]

/-- The graph of the archive. -/
def archiveGraph : Graph :=
  link archiveComponents [] []

/-- From the search, given twice, and the list, the archive is walked through
from the tree to the page and the index; the list stands on the stack twice
before it is visited. -/
theorem closureOf_eq_preorder_archive :
    (build archiveComponents [] []).outcome = .ok archiveGraph ∧
    (∀ id ∈ [3, 1, 3], id < archiveGraph.size) ∧
    archiveGraph.closureOf [3, 1, 3] = .ok [3, 4, 2, 0, 1] ∧
    archiveGraph.preorder [3, 1, 3] = [3, 4, 2, 0, 1] ∧
    ∃ start ∈ [3, 1, 3], archiveGraph.Reaches start 0 := by
  have built : (build archiveComponents [] []).outcome = .ok archiveGraph := by
    have ordered : orderByTag archiveComponents = archiveComponents :=
      List.mergeSort_of_pairwise (by decide)
    rw [outcome_build [] [] (by decide), ordered]
    rfl
  have known : ∀ id ∈ [3, 1, 3], id < archiveGraph.size := by decide
  have walked : archiveGraph.closureOf [3, 1, 3] = .ok [3, 4, 2, 0, 1] := by
    cbv
  obtain ⟨went, _, found⟩ := closureOf_eq_preorder built known
  have order : archiveGraph.preorder [3, 1, 3] = [3, 4, 2, 0, 1] :=
    Except.ok.inj (went.symm.trans walked)
  rw [order] at found
  exact ⟨built, known, walked, order, (found 0).mp (by decide)⟩

end CodeSplit.Graph
