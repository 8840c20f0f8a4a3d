/-
Module: CodeSplit.Proofs.Reach
Purpose: walks through a graph end with a result and find exactly what can be
  reached from where they start.
Main exports:
  Graph.WellFormed, Graph.Reaches, Graph.exists_closureOf, Walks.Faithful,
  Walks.exists_walkFromAll
-/
import CodeSplit.Graph.Cycle
import Mathlib.Data.List.Nodup
import Mathlib.Data.List.Perm.Subperm
import Mathlib.Logic.Relation

namespace CodeSplit

namespace Graph

/-! ### Graphs as they are built -/

/-- What holds of every graph that is built: components stand in the order of
their tags, and the lists that are kept hold numbers of components, ascending.
No component needs itself. -/
structure WellFormed (graph : Graph) : Prop where
  tags_ascending : graph.tags.Pairwise (· < ·)
  dependencies_lt : ∀ {id other}, other ∈ graph.dependencies id →
    other < graph.size
  dependencies_ne : ∀ {id other}, other ∈ graph.dependencies id → other ≠ id
  dependencies_ascending : ∀ id, (graph.dependencies id).Pairwise (· < ·)
  roots_lt : ∀ {id}, id ∈ graph.documentRoots → id < graph.size
  roots_ascending : graph.documentRoots.Pairwise (· < ·)

/-- A component can be reached from another along zero or more edges. -/
def Reaches (graph : Graph) : ComponentId → ComponentId → Prop :=
  Relation.ReflTransGen fun id other => other ∈ graph.dependencies id

/-- From a component only components can be reached. -/
theorem Reaches.lt {graph : Graph} (formed : graph.WellFormed)
    {id other : ComponentId} (reaches : graph.Reaches id other)
    (known : id < graph.size) : other < graph.size := by
  induction reaches with
  | refl => exact known
  | tail _ edge _ => exact formed.dependencies_lt edge

/-! ### The invariant of a walk -/

/-- What holds of a walk at every moment: it has visited components of the graph
once each, will visit components of the graph, and has everything that a visited
component needs behind it or before it. -/
structure Walking (graph : Graph) (order stack : List ComponentId) :
    Prop where
  nodup : order.Nodup
  visited_lt : ∀ id ∈ order, id < graph.size
  ahead_lt : ∀ id ∈ stack, id < graph.size
  closed : ∀ id ∈ order, ∀ other ∈ graph.dependencies id,
    other ∈ order ∨ other ∈ stack

namespace Walking

variable {graph : Graph} {order stack : List ComponentId}
variable {current : ComponentId}

/-- A walk starts with nothing visited. -/
theorem start (known : ∀ id ∈ stack, id < graph.size) :
    Walking graph [] stack :=
  ⟨List.nodup_nil, by simp, known, by simp⟩

/-- A component that was visited before is passed over. -/
theorem skip (walking : Walking graph order (current :: stack))
    (seen : current ∈ order) : Walking graph order stack where
  nodup := walking.nodup
  visited_lt := walking.visited_lt
  ahead_lt id found := walking.ahead_lt id (List.mem_cons_of_mem _ found)
  closed id found other edge := by
    rcases walking.closed id found other edge with behind | ahead
    · exact Or.inl behind
    · rcases List.mem_cons.mp ahead with rfl | ahead
      · exact Or.inl seen
      · exact Or.inr ahead

/-- Visiting a component puts what it needs before the walk. -/
theorem visit (formed : graph.WellFormed)
    (walking : Walking graph order (current :: stack))
    (fresh : current ∉ order) :
    Walking graph (order ++ [current])
      ((graph.dependencies current).filter (· ∉ order ++ [current]) ++
        stack) where
  nodup := by
    rw [List.nodup_append]
    refine ⟨walking.nodup, List.nodup_singleton current, ?_⟩
    intro id found other last same
    subst same
    rw [List.mem_singleton.mp last] at found
    exact fresh found
  visited_lt id found := by
    rcases List.mem_append.mp found with found | found
    · exact walking.visited_lt id found
    · rw [List.mem_singleton.mp found]
      exact walking.ahead_lt current List.mem_cons_self
  ahead_lt id found := by
    rcases List.mem_append.mp found with found | found
    · exact formed.dependencies_lt (List.mem_filter.mp found).1
    · exact walking.ahead_lt id (List.mem_cons_of_mem _ found)
  closed id found other edge := by
    by_cases seen : other ∈ order ++ [current]
    · exact Or.inl seen
    · apply Or.inr
      apply List.mem_append.mpr
      rcases List.mem_append.mp found with found | found
      · rcases walking.closed id found other edge with behind | ahead
        · exact absurd (List.mem_append_left _ behind) seen
        · rcases List.mem_cons.mp ahead with rfl | ahead
          · exact absurd (List.mem_append_right _ List.mem_cons_self) seen
          · exact Or.inr ahead
      · rw [List.mem_singleton.mp found] at edge
        exact Or.inl (List.mem_filter.mpr ⟨edge, by simpa using seen⟩)

/-- While something new is before the walk, it has not visited as many
components as the graph has. -/
theorem length_lt (walking : Walking graph order (current :: stack))
    (fresh : current ∉ order) : order.length < graph.size := by
  have distinct : (current :: order).Nodup :=
    List.nodup_cons.mpr ⟨fresh, walking.nodup⟩
  have inside : current :: order ⊆ List.range graph.size := by
    intro id found
    rw [List.mem_range]
    rcases List.mem_cons.mp found with rfl | found
    · exact walking.ahead_lt id List.mem_cons_self
    · exact walking.visited_lt id found
  have bound := (distinct.subperm inside).length_le
  rw [List.length_cons, List.length_range] at bound
  exact bound

end Walking

/-! ### What a walk finds -/

/-- A walk ends with a result.  It has then visited what it had visited, what
was before it, and nothing that cannot be reached from there. -/
theorem exists_walk {graph : Graph} (formed : graph.WellFormed)
    (starts order stack : List ComponentId)
    (walking : Walking graph order stack) :
    ∃ result, graph.walk starts order stack = .ok result ∧
      Walking graph result [] ∧ order ⊆ result ∧ stack ⊆ result ∧
      ∀ id ∈ result, id ∈ order ∨ ∃ start ∈ stack, graph.Reaches start id := by
  induction order, stack using walk.induct graph with
  | case1 order =>
      refine ⟨order, by rw [walk], walking, fun _ => id, by simp, ?_⟩
      exact fun _ => Or.inl
  | case2 order current stack seen ih =>
      obtain ⟨result, went, done, kept, found, only⟩ := ih (walking.skip seen)
      refine ⟨result, ?_, done, kept, ?_, fun id visited => ?_⟩
      · rw [walk, if_pos seen, went]
      · exact List.cons_subset.mpr ⟨kept seen, found⟩
      · rcases only id visited with before | ⟨start, ahead, reaches⟩
        · exact Or.inl before
        · exact Or.inr ⟨start, List.mem_cons_of_mem _ ahead, reaches⟩
  | case3 order current stack fresh full =>
      exact absurd (walking.length_lt fresh) (Nat.not_lt.mpr full)
  | case4 order current stack fresh room visited next ih =>
      obtain ⟨result, went, done, kept, found, only⟩ :=
        ih (walking.visit formed fresh)
      rw [List.append_subset] at kept found
      refine ⟨result, ?_, done, kept.1, ?_, fun id reached => ?_⟩
      · rw [walk, if_neg fresh, if_neg room, went]
      · exact List.cons_subset.mpr ⟨kept.2 List.mem_cons_self, found.2⟩
      · rcases only id reached with before | ⟨start, ahead, reaches⟩
        · rcases List.mem_append.mp before with before | last
          · exact Or.inl before
          · rw [List.mem_singleton.mp last]
            exact Or.inr ⟨current, List.mem_cons_self, .refl⟩
        · rcases List.mem_append.mp ahead with needed | ahead
          · exact Or.inr ⟨current, List.mem_cons_self,
              .head (List.mem_filter.mp needed).1 reaches⟩
          · exact Or.inr ⟨start, List.mem_cons_of_mem _ ahead, reaches⟩

/-- What a finished walk has visited is closed under reaching. -/
theorem Walking.mem_of_reaches {graph : Graph} {order : List ComponentId}
    (done : Walking graph order []) {id other : ComponentId}
    (reaches : graph.Reaches id other) (visited : id ∈ order) :
    other ∈ order := by
  induction reaches with
  | refl => exact visited
  | tail _ edge ih =>
      rcases done.closed _ ih _ edge with behind | ahead
      · exact behind
      · simp at ahead

/-- From components of the graph there is a closure: it holds what can be
reached from any of them, each once. -/
theorem exists_closureOf {graph : Graph} (formed : graph.WellFormed)
    (starts : List ComponentId) (known : ∀ id ∈ starts, id < graph.size) :
    ∃ order, graph.closureOf starts = .ok order ∧ order.Nodup ∧
      ∀ id, id ∈ order ↔ ∃ start ∈ starts, graph.Reaches start id := by
  obtain ⟨order, went, done, _, found, only⟩ :=
    exists_walk formed starts [] starts (Walking.start known)
  refine ⟨order, went, done.nodup, fun id => ⟨fun visited => ?_, ?_⟩⟩
  · rcases only id visited with before | reached
    · simp at before
    · exact reached
  · intro given
    obtain ⟨start, among, reaches⟩ := given
    exact done.mem_of_reaches reaches (found among)

theorem mem_reachable {graph : Graph} (formed : graph.WellFormed)
    {id other : ComponentId} (known : id < graph.size) :
    other ∈ graph.reachable id ↔ graph.Reaches id other := by
  obtain ⟨order, went, _, members⟩ :=
    exists_closureOf formed [id] (by simpa using known)
  rw [reachable, went]
  simpa using members other

end Graph

/-! ### Remembered walks -/

namespace Walks

variable {graph : Graph}

/-- Every remembered walk is one from a component of the graph, and the graph
has not changed since. -/
def Faithful (walks : Walks) (graph : Graph) : Prop :=
  ∀ id order, walks.known.lookup id = some order →
    id < graph.size ∧ graph.closureOf [id] = .ok order

theorem faithful_nil (graph : Graph) : Faithful {} graph := by
  intro id order held
  simp at held

/-- `union` repeats nothing that its first list does not repeat. -/
theorem nodup_union {one : List ComponentId} (distinct : one.Nodup)
    (other : List ComponentId) : (union one other).Nodup := by
  unfold union
  induction other generalizing one with
  | nil => exact distinct
  | cons first rest ih =>
      rw [List.foldl_cons]
      split
      · exact ih distinct
      · rename_i fresh
        refine ih (List.nodup_append.mpr ⟨distinct, by simp, ?_⟩)
        rintro id found other last rfl
        exact fresh (List.mem_singleton.mp last ▸ found)

/-- The walk from a component has a result, and remembering it keeps the memory
faithful. -/
theorem exists_walkFrom (formed : graph.WellFormed) {walks : Walks}
    (faithful : walks.Faithful graph) {id : ComponentId}
    (known : id < graph.size) :
    ∃ order kept, (walks.walkFrom graph id).outcome = .ok (order, kept) ∧
      kept.Faithful graph ∧
      ∀ other, other ∈ order ↔ graph.Reaches id other := by
  have members {order : List ComponentId}
      (went : graph.closureOf [id] = .ok order) (other : ComponentId) :
      other ∈ order ↔ graph.Reaches id other := by
    obtain ⟨order', went', _, found⟩ :=
      Graph.exists_closureOf formed [id] (by simpa using known)
    rw [went] at went'
    cases went'
    simpa using found other
  unfold walkFrom
  cases held : walks.known.lookup id with
  | some order =>
      exact ⟨order, walks, rfl, faithful, members (faithful id order held).2⟩
  | none =>
      obtain ⟨order, went, _⟩ :=
        Graph.exists_closureOf formed [id] (by simpa using known)
      refine ⟨order, ⟨(id, order) :: walks.known⟩, ?_, ?_, members went⟩
      · show (Planning.ofExcept (graph.closureOf [id]) >>= _).outcome = _
        rw [Planning.outcome_bind_of_ok went]
        rfl
      · intro other order' held'
        rw [List.lookup_cons] at held'
        split at held'
        · rename_i same
          cases held'
          rw [eq_of_beq same]
          exact ⟨known, went⟩
        · exact faithful other order' held'

/-- Collecting walks has a result: what was collected already, and what can be
reached from any of the components. -/
theorem exists_walkFromAllOnto (formed : graph.WellFormed) {walks : Walks}
    (faithful : walks.Faithful graph) (reached ids : List ComponentId)
    (distinct : reached.Nodup) (known : ∀ id ∈ ids, id < graph.size) :
    ∃ all kept,
      (walks.walkFromAllOnto graph reached ids).outcome = .ok (all, kept) ∧
      kept.Faithful graph ∧ all.Nodup ∧
      ∀ other, other ∈ all ↔
        other ∈ reached ∨ ∃ id ∈ ids, graph.Reaches id other := by
  induction ids generalizing walks reached with
  | nil => exact ⟨reached, walks, rfl, faithful, distinct, by simp⟩
  | cons id rest ih =>
      obtain ⟨order, kept, went, still, found⟩ :=
        exists_walkFrom formed faithful (known id List.mem_cons_self)
      obtain ⟨all, last, collected, faithful', distinct', members⟩ :=
        ih still _ (nodup_union distinct order)
          fun id among => known id (List.mem_cons_of_mem _ among)
      refine ⟨all, last, ?_, faithful', distinct', fun other => ?_⟩
      · rw [walkFromAllOnto, Planning.outcome_bind_of_ok went]
        exact collected
      · rw [members, mem_union, found]
        simp [or_assoc]

/-- Walking from components has a result: what can be reached from any of them,
each once. -/
theorem exists_walkFromAll (formed : graph.WellFormed) {walks : Walks}
    (faithful : walks.Faithful graph) {ids : List ComponentId}
    (known : ∀ id ∈ ids, id < graph.size) :
    ∃ all kept, (walks.walkFromAll graph ids).outcome = .ok (all, kept) ∧
      kept.Faithful graph ∧ all.Nodup ∧
      ∀ other, other ∈ all ↔ ∃ id ∈ ids, graph.Reaches id other := by
  simpa [walkFromAll] using
    exists_walkFromAllOnto formed faithful [] ids .nil known

end Walks

end CodeSplit
