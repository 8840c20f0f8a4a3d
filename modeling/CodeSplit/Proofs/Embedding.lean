/-
Module: CodeSplit.Proofs.Embedding
Purpose: a part of a graph that no walk enters from outside, its numbers in the
  whole, and walks in it.
Main exports:
  Graph.Embedding, Graph.Embedding.pull, Graph.Embedding.reachable_place,
  Graph.Embedding.pull_reachedFrom
-/
import CodeSplit.Proofs.Coverage
import CodeSplit.Proofs.Renumbering
import Mathlib.Order.WellFounded

namespace CodeSplit

namespace Graph

/-!
The components of a part have numbers of their own, in the same order as in the
whole.  Whatever is computed from the whole is compared with the same for the
part by pulling it back: the numbers of other components are left out, and the
remaining ones become those of the part.
-/

/-- Walks of the tiers start from this component at most: the root document
mentions it, or it belongs to the application. -/
def Starts (graph : Graph) (id : ComponentId) : Prop :=
  id < graph.size ∧
    (id ∈ graph.documentRoots ∨ graph.isExternal id = false)

/-- One graph is a part of another one.  What its components need is in it, and
no walk from a start outside enters it. -/
structure Embedding (part whole : Graph) where
  /-- The number in the whole. -/
  place : ComponentId → ComponentId
  /-- The number in the part, where there is one. -/
  back : ComponentId → Option ComponentId
  back_eq_some_iff : ∀ {id other}, back other = some id ↔ place id = other
  ascends : StrictMono place
  alike : part.Alike whole place
  dependencies_place : ∀ id,
    whole.dependencies (place id) = (part.dependencies id).map place
  roots : whole.documentRoots.filterMap back = part.documentRoots
  apart : ∀ {root id}, whole.Starts root → back root = none →
    ¬ whole.Reaches root (place id)

/-- Numbers in strict order stay so when those of a part are taken back to the
part, whose numbers have the order of their places. -/
theorem pairwise_filterMap_back {place : ComponentId → ComponentId}
    {back : ComponentId → Option ComponentId} (ascends : StrictMono place)
    (back_eq_some_iff : ∀ {id other}, back other = some id ↔ place id = other)
    {ids : List ComponentId} (ordered : ids.Pairwise (· < ·)) :
    (ids.filterMap back).Pairwise (· < ·) := by
  refine ordered.filterMap back fun one other below first at_one second
    at_other => ?_
  obtain rfl := back_eq_some_iff.mp at_one
  obtain rfl := back_eq_some_iff.mp at_other
  exact ascends.lt_iff_lt.mp below

namespace Embedding

variable {part whole : Graph} (embedding : part.Embedding whole)

/-! ### Numbers -/

/-- The components of the part among some of the whole. -/
def pull (ids : List ComponentId) : List ComponentId :=
  ids.filterMap embedding.back

@[simp] theorem back_place (id : ComponentId) :
    embedding.back (embedding.place id) = some id :=
  embedding.back_eq_some_iff.mpr rfl

@[simp] theorem mem_pull {ids : List ComponentId} {id : ComponentId} :
    id ∈ embedding.pull ids ↔ embedding.place id ∈ ids := by
  simp [pull, List.mem_filterMap, embedding.back_eq_some_iff]

@[simp] theorem pull_nil : embedding.pull [] = [] := rfl

theorem pull_cons_outside {id : ComponentId}
    (outside : embedding.back id = none) (rest : List ComponentId) :
    embedding.pull (id :: rest) = embedding.pull rest :=
  List.filterMap_cons_none outside

@[simp] theorem pull_cons_place (id : ComponentId) (rest : List ComponentId) :
    embedding.pull (embedding.place id :: rest) = id :: embedding.pull rest :=
  List.filterMap_cons_some (embedding.back_place id)

@[simp] theorem pull_append (one other : List ComponentId) :
    embedding.pull (one ++ other) =
      embedding.pull one ++ embedding.pull other :=
  List.filterMap_append

@[simp] theorem pull_map_place (ids : List ComponentId) :
    embedding.pull (ids.map embedding.place) = ids := by
  simp [pull, List.filterMap_map]

theorem place_mem_map {ids : List ComponentId} {id : ComponentId} :
    embedding.place id ∈ ids.map embedding.place ↔ id ∈ ids :=
  List.mem_map_of_injective embedding.ascends.injective

/-- A number of the whole is outside or has one in the part. -/
theorem outside_or_place (id : ComponentId) :
    embedding.back id = none ∨ ∃ own, embedding.place own = id := by
  cases at_id : embedding.back id with
  | none => exact Or.inl rfl
  | some own => exact Or.inr ⟨own, embedding.back_eq_some_iff.mp at_id⟩

theorem pull_pairwise {ids : List ComponentId}
    (ordered : ids.Pairwise (· < ·)) :
    (embedding.pull ids).Pairwise (· < ·) :=
  pairwise_filterMap_back embedding.ascends embedding.back_eq_some_iff ordered

theorem pull_ascending (ids : List ComponentId) :
    embedding.pull (ascending ids) = ascending (embedding.pull ids) := by
  refine (ascending_eq_of_mem_iff
    (embedding.pull_pairwise (ascending_pairwise ids)) fun id => ?_).symm
  simp [mem_ascending]

theorem pull_ids : embedding.pull whole.ids = part.ids := by
  refine List.Pairwise.eq_of_mem_iff
    (embedding.pull_pairwise List.pairwise_lt_range) List.pairwise_lt_range
    fun id => ?_
  rw [mem_pull]
  exact mem_ids.trans (embedding.alike.lt_size_iff.trans mem_ids.symm)

/-- Choosing before and after numbers are pulled back comes to the same. -/
theorem pull_filter {keeps keeps' : ComponentId → Bool}
    (same : ∀ id, keeps (embedding.place id) = keeps' id)
    (ids : List ComponentId) :
    embedding.pull (ids.filter keeps) =
      (embedding.pull ids).filter keeps' := by
  rw [pull, pull, List.filterMap_filter, List.filter_filterMap]
  congr 1
  funext id
  rcases embedding.outside_or_place id with outside | ⟨own, rfl⟩
  · simp [outside]
  · simp [same, Option.filter]

theorem pull_union (one other : List ComponentId) :
    embedding.pull (Walks.union one other) =
      Walks.union (embedding.pull one) (embedding.pull other) := by
  unfold Walks.union
  induction other generalizing one with
  | nil => rfl
  | cons id rest ih =>
      rw [List.foldl_cons, ih]
      rcases embedding.outside_or_place id with outside | ⟨own, rfl⟩
      · rw [embedding.pull_cons_outside outside]
        split
        · rfl
        · rw [pull_append, embedding.pull_cons_outside outside, pull_nil,
            List.append_nil]
      · rw [pull_cons_place, List.foldl_cons]
        by_cases seen : embedding.place own ∈ one
        · rw [if_pos seen, if_pos (embedding.mem_pull.mpr seen)]
        · rw [if_neg seen, if_neg (mt embedding.mem_pull.mp seen), pull_append,
            pull_cons_place, pull_nil]

/-! ### Walks -/

/-- The part is not larger than the whole. -/
theorem size_le (embedding : part.Embedding whole) :
    part.size ≤ whole.size := by
  by_contra larger
  rw [not_le] at larger
  have last := embedding.alike.lt_size_iff.mpr larger
  exact absurd (lt_of_le_of_lt embedding.ascends.le_apply last) (lt_irrefl _)

/-- A walk through the part visits the same components in the whole. -/
theorem walk_place (starts starts' order stack : List ComponentId)
    {result : List ComponentId}
    (went : part.walk starts order stack = .ok result) :
    whole.walk starts' (order.map embedding.place)
      (stack.map embedding.place) = .ok (result.map embedding.place) := by
  induction order, stack using walk.induct part with
  | case1 order =>
      rw [walk] at went
      rw [List.map_nil, walk, Except.ok.inj went]
  | case2 order current stack seen ih =>
      rw [walk, if_pos seen] at went
      rw [List.map_cons, walk, if_pos (embedding.place_mem_map.mpr seen)]
      exact ih went
  | case3 order current stack fresh full =>
      rw [walk, if_neg fresh, if_pos full] at went
      cases went
  | case4 order current stack fresh room visited next ih =>
      rw [walk, if_neg fresh, if_neg room] at went
      -- The bound on visits is the size, and the whole is no smaller.
      have room' : ¬ whole.size ≤ (order.map embedding.place).length := by
        have smaller := embedding.size_le
        rw [List.length_map]
        omega
      have visits : order.map embedding.place ++ [embedding.place current] =
          visited.map embedding.place := by simp [visited]
      have nexts : ((part.dependencies current).map embedding.place).filter
          (· ∉ visited.map embedding.place) =
          next.map embedding.place := by
        simp only [next, List.filter_map, Function.comp_def,
          embedding.place_mem_map]
      rw [List.map_cons, walk, if_neg (mt embedding.place_mem_map.mp fresh),
        if_neg room']
      dsimp only
      rw [visits, embedding.dependencies_place, nexts, ← List.map_append]
      exact ih went

variable {embedding}

/-- From a component of the part only the part can be reached, in the same
order. -/
theorem reachable_place (formed : part.WellFormed) {id : ComponentId}
    (known : id < part.size) :
    whole.reachable (embedding.place id) =
      (part.reachable id).map embedding.place := by
  have went := embedding.walk_place [id] [embedding.place id] [] [id]
    (Walks.closureOf_eq_ok_reachable formed known)
  rw [reachable, closureOf]
  rw [List.map_nil, List.map_singleton] at went
  rw [went]

/-- From a component of the part only components of the part can be reached. -/
theorem exists_place_of_reaches (embedding : part.Embedding whole)
    {own other : ComponentId}
    (reaches : whole.Reaches (embedding.place own) other) :
    ∃ inside, embedding.place inside = other := by
  induction reaches with
  | refl => exact ⟨own, rfl⟩
  | tail _ edge ih =>
      obtain ⟨inside, rfl⟩ := ih
      rw [embedding.dependencies_place] at edge
      obtain ⟨next, _, rfl⟩ := List.mem_map.mp edge
      exact ⟨next, rfl⟩

/-- From a start outside nothing of the part can be reached. -/
theorem pull_reachable_outside (formed : whole.WellFormed) {id : ComponentId}
    (start : whole.Starts id) (outside : embedding.back id = none) :
    embedding.pull (whole.reachable id) = [] := by
  rw [List.eq_nil_iff_forall_not_mem]
  intro own found
  rw [mem_pull, mem_reachable formed start.1] at found
  exact embedding.apart start outside found

/-- What can be reached from starts is, in the part, what can be reached from
those among them that are in it. -/
theorem pull_reachedFrom (formed : whole.WellFormed)
    (formed' : part.WellFormed) {ids : List ComponentId}
    (starts : ∀ id ∈ ids, whole.Starts id) :
    embedding.pull (whole.reachedFrom ids) =
      part.reachedFrom (embedding.pull ids) := by
  unfold reachedFrom
  suffices onto : ∀ seen,
      embedding.pull (ids.foldl
        (fun seen id => Walks.union seen (whole.reachable id)) seen) =
      (embedding.pull ids).foldl
        (fun seen id => Walks.union seen (part.reachable id))
        (embedding.pull seen) from onto []
  induction ids with
  | nil => exact fun _ => rfl
  | cons id rest ih =>
      intro seen
      obtain ⟨start, others⟩ := List.forall_mem_cons.mp starts
      rw [List.foldl_cons, ih others, pull_union]
      rcases embedding.outside_or_place id with outside | ⟨own, rfl⟩
      · rw [embedding.pull_cons_outside outside,
          embedding.pull_reachable_outside formed start outside]
        rfl
      · have known := embedding.alike.lt_size_iff.mp start.1
        rw [pull_cons_place, List.foldl_cons,
          reachable_place formed' known, pull_map_place]

end Embedding

end Graph

end CodeSplit
