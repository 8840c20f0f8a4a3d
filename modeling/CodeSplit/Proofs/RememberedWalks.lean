/-
Module: CodeSplit.Proofs.RememberedWalks
Purpose: remembering walks changes no answer and no group, and a walk is
  remembered once for each component that was asked for.
Main exports:
  WalkQuery, Walks.askAll, Walks.Counts, Walks.exists_askAll,
  Walks.transparent_of_askAll
-/
import CodeSplit.Proofs.Linking
import CodeSplit.Proofs.WalkOrder
import Mathlib

namespace CodeSplit

/-! ### Asking for walks -/

/-- What a memory of walks is asked for. -/
inductive WalkQuery where
  /-- The walk from one component. -/
  | single (id : ComponentId)
  /-- What walks from several components in turn find. -/
  | several (ids : List ComponentId)
deriving Repr, DecidableEq

/-- The components from which a query asks to walk. -/
def WalkQuery.ids : WalkQuery → List ComponentId
  | .single id => [id]
  | .several ids => ids

namespace Walks

/-- The answer to a query, and the memory afterwards. -/
def ask (walks : Walks) (graph : Graph) :
    WalkQuery → Planning (List ComponentId × Walks)
  | .single id => walks.walkFrom graph id
  | .several ids => walks.walkFromAll graph ids

/-- The memory after queries, one after the other. -/
def askAll (walks : Walks) (graph : Graph) : List WalkQuery → Planning Walks
  | [] => pure walks
  | query :: rest => do
      let (_, walks) ← walks.ask graph query
      walks.askAll graph rest

/-! ### How many walks are remembered -/

/-- The components whose walks are remembered. -/
def ids (walks : Walks) : List ComponentId :=
  walks.known.map Prod.fst

/-- One walk is remembered for each component that was asked for, and no
other. -/
structure Counts (walks : Walks) (asked : List ComponentId) : Prop where
  distinct : walks.ids.Nodup
  mem_ids : ∀ id, id ∈ walks.ids ↔ id ∈ asked

variable {graph : Graph} {walks kept : Walks} {asked : List ComponentId}

/-- At first nothing is remembered. -/
theorem counts_nil : Counts {} [] :=
  ⟨List.nodup_nil, fun _ => Iff.rfl⟩

/-- The number of remembered walks is that of the components asked for, each
counted once. -/
theorem Counts.size_eq (counts : walks.Counts asked) :
    walks.size = asked.dedup.length := by
  have perm : walks.ids.Perm asked.dedup := by
    rw [List.perm_ext_iff_of_nodup counts.distinct (List.nodup_dedup _)]
    intro id
    rw [counts.mem_ids, List.mem_dedup]
  rw [← perm.length_eq, ids, List.length_map, size]

theorem mem_ids_of_lookup {id : ComponentId} {order : List ComponentId}
    (held : walks.known.lookup id = some order) : id ∈ walks.ids := by
  obtain ⟨before, after, at_id, _⟩ := List.lookup_eq_some_iff.mp held
  rw [ids, at_id]
  simp

theorem not_mem_ids_of_lookup {id : ComponentId}
    (unknown : walks.known.lookup id = none) : id ∉ walks.ids := by
  intro found
  obtain ⟨pair, among, rfl⟩ := List.mem_map.mp found
  simpa using List.lookup_eq_none_iff.mp unknown pair among

/-- A walk that is asked for is remembered from then on. -/
theorem Counts.walkFrom (counts : walks.Counts asked) {id : ComponentId}
    {order : List ComponentId}
    (went : (walks.walkFrom graph id).outcome = .ok (order, kept)) :
    kept.Counts (id :: asked) := by
  rw [Walks.walkFrom] at went
  split at went
  · rename_i remembered held
    obtain ⟨_, rfl⟩ := Prod.mk.inj (Except.ok.inj went)
    have asked_before := (counts.mem_ids id).mp (mem_ids_of_lookup held)
    refine ⟨counts.distinct, fun other => ?_⟩
    rw [counts.mem_ids, List.mem_cons]
    constructor
    · exact Or.inr
    · rintro (rfl | among)
      · exact asked_before
      · exact among
  · rename_i unknown
    obtain ⟨taken, _, went⟩ := Planning.exists_of_outcome_bind went
    obtain ⟨_, rfl⟩ := Prod.mk.inj (Except.ok.inj went)
    refine ⟨List.nodup_cons.mpr
      ⟨not_mem_ids_of_lookup unknown, counts.distinct⟩, fun other => ?_⟩
    rw [ids, List.map_cons, List.mem_cons, List.mem_cons, ← ids,
      counts.mem_ids]

/-- Walks that are asked for together are all remembered from then on. -/
theorem Counts.walkFromAllOnto (counts : walks.Counts asked)
    {reached ids order : List ComponentId}
    (went : (walks.walkFromAllOnto graph reached ids).outcome =
      .ok (order, kept)) :
    kept.Counts (asked ++ ids) := by
  induction ids generalizing walks asked reached with
  | nil =>
      obtain ⟨_, rfl⟩ := Prod.mk.inj (Except.ok.inj went)
      rwa [List.append_nil]
  | cons id rest ih =>
      rw [Walks.walkFromAllOnto] at went
      obtain ⟨⟨_, next⟩, went_first, went⟩ :=
        Planning.exists_of_outcome_bind went
      have counts_kept := ih (counts.walkFrom went_first) went
      refine ⟨counts_kept.distinct, fun other => ?_⟩
      rw [counts_kept.mem_ids]
      simp [or_left_comm]

/-- Any query is answered from a faithful memory, which stays faithful and
remembers the walks asked for. -/
theorem exists_ask (formed : graph.WellFormed)
    (faithful : walks.Faithful graph) (counts : walks.Counts asked)
    {query : WalkQuery} (known : ∀ id ∈ query.ids, id < graph.size) :
    ∃ order kept, (walks.ask graph query).outcome = .ok (order, kept) ∧
      kept.Faithful graph ∧ kept.Counts (asked ++ query.ids) := by
  cases query with
  | single id =>
      obtain ⟨kept, faithful', went⟩ :=
        outcome_walkFrom formed faithful (known id List.mem_cons_self)
      have counts_kept := counts.walkFrom went
      refine ⟨_, kept, went, faithful', counts_kept.distinct, fun other => ?_⟩
      rw [counts_kept.mem_ids, WalkQuery.ids, List.mem_append,
        List.mem_singleton, List.mem_cons, or_comm]
  | several ids =>
      obtain ⟨kept, faithful', went⟩ :=
        outcome_walkFromAll formed faithful known
      exact ⟨_, kept, went, faithful', counts.walkFromAllOnto went⟩

/-- All queries are answered, and exactly the walks they ask for are remembered
beside those asked for before. -/
theorem exists_askAll (formed : graph.WellFormed)
    (faithful : walks.Faithful graph) (counts : walks.Counts asked)
    {queries : List WalkQuery}
    (known : ∀ query ∈ queries, ∀ id ∈ query.ids, id < graph.size) :
    ∃ last, (walks.askAll graph queries).outcome = .ok last ∧
      last.Faithful graph ∧
      last.Counts (asked ++ queries.flatMap WalkQuery.ids) := by
  induction queries generalizing walks asked with
  | nil => exact ⟨walks, rfl, faithful, by simpa using counts⟩
  | cons query rest ih =>
      obtain ⟨here, others⟩ := List.forall_mem_cons.mp known
      obtain ⟨_, next, went, faithful', counts'⟩ :=
        exists_ask formed faithful counts here
      obtain ⟨last, went_on, faithful_last, counts_last⟩ :=
        ih faithful' counts' others
      refine ⟨last, ?_, faithful_last, ?_⟩
      · rw [askAll, Planning.outcome_bind_of_ok went]
        exact went_on
      · rwa [List.flatMap_cons, ← List.append_assoc]

/-! ### Answers from the memory -/

/-- After any queries to an empty memory, there is one walk in it for each
component asked for; the walk from a component and the walks from several of them
are what one walk without a memory finds, in the same order; and the groups of
the graph are those that are planned without a memory. -/
theorem transparent_of_askAll {components : List Component}
    {mentions : Mentions} {documentTags : List String}
    (built : (Graph.build components mentions documentTags).outcome =
      .ok graph)
    {queries : List WalkQuery}
    (known : ∀ query ∈ queries, ∀ id ∈ query.ids, id < graph.size) :
    ∃ walks, (askAll {} graph queries).outcome = .ok walks ∧
      walks.size = (queries.flatMap WalkQuery.ids).dedup.length ∧
      (∀ id < graph.size, ∃ order kept,
        graph.closureOf [id] = .ok order ∧
        (walks.walkFrom graph id).outcome = .ok (order, kept)) ∧
      (∀ ids : List ComponentId, (∀ id ∈ ids, id < graph.size) →
        ∃ order kept, graph.closureOf ids = .ok order ∧
          (walks.walkFromAll graph ids).outcome = .ok (order, kept)) ∧
      ∀ bundles, ∃ groups last last_fresh,
        (planGroups graph bundles walks).outcome = .ok (groups, last) ∧
        (planGroups graph bundles {}).outcome = .ok (groups, last_fresh) := by
  have formed := Graph.wellFormed_of_build built
  obtain ⟨walks, went, faithful, counts⟩ :=
    exists_askAll formed (faithful_nil graph) counts_nil known
  rw [List.nil_append] at counts
  refine ⟨walks, went, counts.size_eq, fun id inside => ?_,
    fun ids inside => ?_, fun bundles => ?_⟩
  · obtain ⟨kept, _, answered⟩ := outcome_walkFrom formed faithful inside
    exact ⟨_, kept, closureOf_eq_ok_reachable formed inside, answered⟩
  · obtain ⟨kept, _, answered⟩ := outcome_walkFromAll formed faithful inside
    exact ⟨_, kept, Graph.closureOf_eq_reachedFrom formed inside, answered⟩
  · obtain ⟨last, planned⟩ :=
      outcome_planGroups_settled formed bundles faithful
    obtain ⟨last_fresh, planned_fresh⟩ :=
      outcome_planGroups_settled formed bundles (faithful_nil graph)
    exact ⟨_, last, last_fresh, planned, planned_fresh⟩

/-- Components of a wizard, in the order of their tags: three steps that lead to
each other in a circle, and a tour that enters it at the second one. -/
def wizardComponents : List Component :=
  [{ tag := "step-a", source := ⟨"a.js"⟩, dependencies := ["step-b"] },
   { tag := "step-b", source := ⟨"b.js"⟩, dependencies := ["step-c"] },
   { tag := "step-c", source := ⟨"c.js"⟩, dependencies := ["step-a"] },
   { tag := "tour", source := ⟨"tour.js"⟩, dependencies := ["step-b"] }]

/-- The graph of the wizard. -/
def wizardGraph : Graph :=
  Graph.link wizardComponents [] []

/-- After queries that repeat themselves, two walks around the circle are
remembered; the third one and the tour are answered as by one walk. -/
theorem transparent_of_askAll_wizard :
    (Graph.build wizardComponents [] []).outcome = .ok wizardGraph ∧
    (∀ query ∈ [WalkQuery.several [3, 1, 3], .single 3],
      ∀ id ∈ query.ids, id < wizardGraph.size) ∧
    ∃ walks, (askAll {} wizardGraph [.several [3, 1, 3], .single 3]).outcome =
        .ok walks ∧
      walks.size = 2 ∧
      wizardGraph.closureOf [2, 3] = .ok [2, 0, 1, 3] ∧
      (∃ kept, (walks.walkFromAll wizardGraph [2, 3]).outcome =
        .ok ([2, 0, 1, 3], kept)) ∧
      ∃ groups last last_fresh,
        (planGroups wizardGraph [["tour"]] walks).outcome =
          .ok (groups, last) ∧
        (planGroups wizardGraph [["tour"]] {}).outcome =
          .ok (groups, last_fresh) := by
  have built : (Graph.build wizardComponents [] []).outcome =
      .ok wizardGraph := by
    have ordered : Graph.orderByTag wizardComponents = wizardComponents :=
      List.mergeSort_of_pairwise (by decide)
    rw [Graph.outcome_build [] [] (by decide), ordered]
    rfl
  have known : ∀ query ∈ [WalkQuery.several [3, 1, 3], .single 3],
      ∀ id ∈ query.ids, id < wizardGraph.size := by decide
  have walked : wizardGraph.closureOf [2, 3] = .ok [2, 0, 1, 3] := by cbv
  obtain ⟨walks, went, size, _, from_all, groups⟩ :=
    transparent_of_askAll built known
  obtain ⟨order, kept, walked', answered⟩ := from_all [2, 3] (by decide)
  obtain rfl := Except.ok.inj (walked.symm.trans walked')
  exact ⟨built, known, walks, went, size, walked, ⟨kept, answered⟩,
    groups [["tour"]]⟩

end Walks

end CodeSplit
