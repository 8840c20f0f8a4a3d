/-
Module: CodeSplit.Proofs.WalkOrder
Purpose: a walk from several components visits the same components in the same
  order as walks from each of them in turn.
Main exports:
  Graph.walk_append, Graph.walk_beside, Graph.closureOf_eq_reachedFrom
-/
import CodeSplit.Proofs.Settling

namespace CodeSplit

/-!
A walk passes over what it has visited before.  Once that is closed under needs,
going on from a component adds what a fresh walk from there finds, in the order
of the fresh walk and without what was visited: wherever the fresh walk enters
the closed part it stays in it until it comes back to its stack.
-/

/-- Joining a list that repeats nothing adds its new members, in their order. -/
theorem Walks.union_eq_append_filter {one other : List ComponentId}
    (distinct : other.Nodup) :
    Walks.union one other = one ++ other.filter (· ∉ one) := by
  unfold Walks.union
  induction other generalizing one with
  | nil => simp
  | cons id rest ih =>
      obtain ⟨fresh, distinct⟩ := List.nodup_cons.mp distinct
      rw [List.foldl_cons, ih distinct]
      by_cases seen : id ∈ one
      · simp [seen]
      · have others : rest.filter (· ∉ one ++ [id]) =
            rest.filter (· ∉ one) := by
          refine List.filter_congr fun other among => ?_
          have apart : other ≠ id := fun same => fresh (same ▸ among)
          simp [apart]
        rw [if_neg seen, others, List.filter_cons_of_pos (by simpa using seen),
          List.append_assoc, List.singleton_append]

namespace Graph

variable {graph : Graph}

/-- A walk goes through the first part of its stack before it enters the
rest. -/
theorem walk_append (graph : Graph) (starts order stack rest : List ComponentId) :
    graph.walk starts order (stack ++ rest) =
      (graph.walk starts order stack).bind fun visited =>
        graph.walk starts visited rest := by
  induction order, stack using walk.induct graph with
  | case1 order =>
      rw [List.nil_append, walk.eq_1 graph starts order]
      rfl
  | case2 order current stack seen ih =>
      rw [List.cons_append, walk, if_pos seen, ih, walk, if_pos seen]
  | case3 order current stack fresh full =>
      rw [List.cons_append, walk, if_neg fresh, if_pos full, walk,
        if_neg fresh, if_pos full]
      rfl
  | case4 order current stack fresh room visited next ih =>
      rw [List.append_assoc] at ih
      rw [List.cons_append, walk, if_neg fresh, if_neg room, walk,
        if_neg fresh, if_neg room]
      exact ih

/-- Of a part that is closed under needs, everything that a member needs is in
the part. -/
def Closed (graph : Graph) (part : List ComponentId) : Prop :=
  ∀ id ∈ part, ∀ other ∈ graph.dependencies id, other ∈ part

/-- A walk beside a closed part that counts as visited finds what it finds
without that part, in the same order, except for the part. -/
theorem walk_beside {part : List ComponentId} (closed : graph.Closed part)
    (starts starts' order stack : List ComponentId)
    {result found : List ComponentId}
    (went : graph.walk starts order stack = .ok result)
    (went_beside : graph.walk starts' (part ++ order.filter (· ∉ part))
      (stack.filter (· ∉ part)) = .ok found) :
    found = part ++ result.filter (· ∉ part) := by
  induction order, stack using walk.induct graph with
  | case1 order =>
      rw [walk] at went
      rw [List.filter_nil, walk] at went_beside
      rw [← Except.ok.inj went_beside, Except.ok.inj went]
  | case2 order current stack seen ih =>
      rw [walk, if_pos seen] at went
      apply ih went
      by_cases inside : current ∈ part
      · rwa [List.filter_cons_of_neg (by simpa using inside)] at went_beside
      · have behind : current ∈ part ++ order.filter (· ∉ part) := by
          simp [seen, inside]
        rwa [List.filter_cons_of_pos (by simpa using inside), walk,
          if_pos behind] at went_beside
  | case3 order current stack fresh full =>
      rw [walk, if_neg fresh, if_pos full] at went
      cases went
  | case4 order current stack fresh room visited next ih =>
      rw [walk, if_neg fresh, if_neg room] at went
      apply ih went
      rw [List.filter_append next stack]
      by_cases inside : current ∈ part
      · -- What a member of the part needs is passed over beside the part.
        have nothing : next.filter (· ∉ part) = [] := by
          rw [List.filter_eq_nil_iff]
          intro other among
          have needed := (List.mem_filter.mp among).1
          simpa using closed current inside other needed
        have same : visited.filter (· ∉ part) = order.filter (· ∉ part) := by
          simp [visited, inside]
        rw [List.filter_cons_of_neg (by simpa using inside)] at went_beside
        rwa [nothing, same]
      · have ahead : current ∉ part ++ order.filter (· ∉ part) := by
          simp [fresh, inside]
        have visits : part ++ visited.filter (· ∉ part) =
            part ++ order.filter (· ∉ part) ++ [current] := by
          simp [visited, inside]
        have nexts : (graph.dependencies current).filter
            (· ∉ part ++ order.filter (· ∉ part) ++ [current]) =
            next.filter (· ∉ part) := by
          rw [List.filter_filter]
          refine List.filter_congr fun other _ => ?_
          by_cases other_inside : other ∈ part
          · simp [other_inside]
          · simp [other_inside, visited]
        rw [List.filter_cons_of_pos (by simpa using inside), walk,
          if_neg ahead] at went_beside
        rw [visits]
        split at went_beside
        · cases went_beside
        · dsimp only at went_beside
          rwa [nexts] at went_beside

/-- What a finished walk has visited is closed. -/
theorem Walking.closed_done {order : List ComponentId}
    (done : Walking graph order []) : graph.Closed order := by
  intro id visited other needed
  simpa using done.closed id visited other needed

/-- Going on from a component adds what can be reached from it and was not
visited, in the order of a walk from there. -/
theorem walk_singleton (formed : graph.WellFormed) {visited : List ComponentId}
    (done : Walking graph visited []) {id : ComponentId}
    (known : id < graph.size) (starts : List ComponentId) :
    graph.walk starts visited [id] =
        .ok (Walks.union visited (graph.reachable id)) ∧
      Walking graph (Walks.union visited (graph.reachable id)) [] := by
  have went := Walks.closureOf_eq_ok_reachable formed known
  obtain ⟨order, went', distinct, _⟩ :=
    exists_closureOf formed [id] (by simpa using known)
  obtain rfl := Except.ok.inj (went.symm.trans went')
  have walking : Walking graph visited [id] :=
    ⟨done.nodup, done.visited_lt, by simpa using known,
      fun own among other needed =>
        Or.inl (done.closed_done own among other needed)⟩
  obtain ⟨found, went_on, done_on, _⟩ :=
    exists_walk formed starts visited [id] walking
  have beside : graph.walk starts
      (visited ++ ([] : List ComponentId).filter (· ∉ visited))
      ([id].filter (· ∉ visited)) = .ok found := by
    rw [List.filter_nil, List.append_nil]
    by_cases seen : id ∈ visited
    · rw [walk, if_pos seen] at went_on
      rwa [List.filter_cons_of_neg (by simpa using seen)]
    · rwa [List.filter_cons_of_pos (by simpa using seen)]
  have same : found = Walks.union visited (graph.reachable id) := by
    rw [Walks.union_eq_append_filter distinct]
    exact walk_beside done.closed_done [id] starts [] [id] went beside
  exact ⟨same ▸ went_on, same ▸ done_on⟩

/-- Going on from components in turn joins what can be reached from each. -/
theorem walk_eq_foldl (formed : graph.WellFormed)
    (starts : List ComponentId) {visited ids : List ComponentId}
    (done : Walking graph visited [])
    (known : ∀ id ∈ ids, id < graph.size) :
    graph.walk starts visited ids = .ok (ids.foldl
      (fun seen id => Walks.union seen (graph.reachable id)) visited) := by
  induction ids generalizing visited with
  | nil => rw [walk, List.foldl_nil]
  | cons id rest ih =>
      obtain ⟨here, others⟩ := List.forall_mem_cons.mp known
      obtain ⟨went, done_on⟩ := walk_singleton formed done here starts
      rw [List.foldl_cons, ← ih done_on others, ← List.singleton_append,
        walk_append, went]
      rfl

/-- From components of the graph, one walk finds what walks from each of them in
turn find, in the order in which these find it first. -/
theorem closureOf_eq_reachedFrom (formed : graph.WellFormed)
    {ids : List ComponentId} (known : ∀ id ∈ ids, id < graph.size) :
    graph.closureOf ids = .ok (graph.reachedFrom ids) :=
  walk_eq_foldl formed ids (Walking.start (by simp)) known

end Graph

end CodeSplit
