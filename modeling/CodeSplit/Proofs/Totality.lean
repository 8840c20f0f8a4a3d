/-
Module: CodeSplit.Proofs.Totality
Purpose: a project has a plan exactly when its tags are valid and the build is
  not called off; the planner never breaks its own rules.
Main exports:
  Graph.InRange, Group.InRange, Walks.InRange, plan_total
-/
import CodeSplit.Proofs.Projects

namespace CodeSplit

/-! ### Numbers in range -/

/-- Every number in a graph, in its cycles and in walks through it is that of a
component, and no walk is stopped. -/
structure Graph.InRange (graph : Graph) : Prop where
  mentioned : ∀ node ∈ graph.nodes, ∀ id ∈ node.mentioned, id < graph.size
  dependencies : ∀ node ∈ graph.nodes, ∀ id ∈ node.dependencies,
    id < graph.size
  roots : ∀ id ∈ graph.documentRoots, id < graph.size
  cycles : ∀ cycle ∈ graph.cycles, ∀ id ∈ cycle, id < graph.size
  closures : ∀ starts, (∀ id ∈ starts, id < graph.size) →
    ∃ order, graph.closureOf starts = .ok order ∧ ∀ id ∈ order, id < graph.size

/-- Every number in a group is that of a component. -/
def Group.InRange (graph : Graph) (group : Group) : Prop :=
  ∀ member ∈ group, member.id < graph.size ∧
    ∀ other ∈ member.dependents, other < graph.size

/-- Every number in a remembered walk is that of a component. -/
def Walks.InRange (graph : Graph) (walks : Walks) : Prop :=
  ∀ id order, walks.known.lookup id = some order →
    id < graph.size ∧ ∀ other ∈ order, other < graph.size

namespace Graph

variable {graph : Graph}

/-- A walk from components finds components. -/
theorem exists_closureOf_lt (formed : graph.WellFormed)
    {starts : List ComponentId} (known : ∀ id ∈ starts, id < graph.size) :
    ∃ order, graph.closureOf starts = .ok order ∧
      ∀ id ∈ order, id < graph.size := by
  obtain ⟨order, went, _, found⟩ := exists_closureOf formed starts known
  refine ⟨order, went, fun id among => ?_⟩
  obtain ⟨start, start_among, reaches⟩ := (found id).mp among
  exact reaches.lt formed (known start start_among)

/-- Cycles are made of components. -/
theorem lt_of_mem_cycles {cycle : List ComponentId}
    (among : cycle ∈ graph.cycles) : ∀ id ∈ cycle, id < graph.size := by
  obtain ⟨first, _, chosen⟩ := List.mem_filterMap.mp among
  have whole : cycle = classOf
      (graph.ids.map fun id => (id, graph.reachable id)) first := by
    split at chosen
    · rename_i shape
      split at chosen
      · rw [shape]
        exact (Option.some.inj chosen).symm
      · cases chosen
    · cases chosen
  intro id found
  rw [whole, classOf] at found
  obtain ⟨pair, pair_among, rfl⟩ := List.mem_map.mp found
  obtain ⟨id, known, rfl⟩ :=
    List.mem_map.mp (List.mem_filter.mp pair_among).1
  exact mem_ids.mp known

/-- What stands in a node of a linked graph are positions of tags. -/
theorem lt_of_mem_linkNode {tags : List String} {mentions : Mentions}
    {component : Component} {id : ComponentId}
    (found : id ∈ (linkNode tags mentions component).mentioned ∨
      id ∈ (linkNode tags mentions component).dependencies) :
    id < tags.length := by
  have position {names : List String} {id : Nat}
      (among : id ∈ names.filterMap fun name => tags.idxOf? name) :
      id < tags.length := by
    obtain ⟨name, _, at_id⟩ := List.mem_filterMap.mp among
    exact (List.idxOf?_eq_some_iff.mp at_id).1
  simp only [linkNode, mem_ascending, List.mem_append] at found
  rcases found with among | among | among
  · exact position among
  · exact position among
  · exact position among

/-- Every number in a linked graph is that of a component. -/
theorem inRange_link {ordered : List Component} {mentions : Mentions}
    {documentTags : List String}
    (formed : (link ordered mentions documentTags).WellFormed) :
    (link ordered mentions documentTags).InRange where
  mentioned node among id found := by
    obtain ⟨component, _, rfl⟩ := List.mem_map.mp among
    simpa using lt_of_mem_linkNode (Or.inl found)
  dependencies node among id found := by
    obtain ⟨component, _, rfl⟩ := List.mem_map.mp among
    simpa using lt_of_mem_linkNode (Or.inr found)
  roots _ := formed.roots_lt
  cycles _ := lt_of_mem_cycles
  closures _ := exists_closureOf_lt formed

end Graph

namespace TierRun

variable {graph : Graph} {bundles : List (List String)} {walks : Walks}

/-- The groups that a run ends with hold numbers of components. -/
theorem inRange_groups (formed : graph.WellFormed)
    (run : TierRun graph bundles walks) :
    ∀ group ∈ run.groups, Group.InRange graph group := by
  intro group among member found
  have placed : member.id ∈ run.shared.ids :=
    (run.ids_groups_perm formed).mem_iff.mp (List.mem_flatMap.mpr
      ⟨group, among, Group.mem_ids_iff.mpr ⟨member, found, rfl⟩⟩)
  refine ⟨?_, fun other because => ?_⟩
  · rcases (run.mem_ids_shared formed).mp placed with claimed | left
    · exact claimed.lt formed
    · exact left.lt formed
  · obtain ⟨group, group_among, rfl⟩ :=
      (Placement.mem_sortedGroups (run.none_empty_shared formed)).mp among
    obtain ⟨old, old_found, rfl⟩ := Group.mem_sorted.mp found
    rw [mem_ascending] at because
    rcases run.steps.ofResidue (run.residue_wellFormed formed) group_among
      old_found with ⟨early, early_among, early_found⟩ | ⟨_, others⟩
    · -- In the first two tiers nothing is placed for the sake of another.
      have none : old.dependents = [] := by
        rcases run.holds_of_mem_documented early_among with
          ⟨index, holds⟩ | holds
        · exact ((holds old).mp early_found).1
        · exact ((holds old).mp early_found).1
      rw [none] at because
      cases because
    · exact (run.mem_ids_residue.mp (others other because)).lt formed

/-- So do the groups after splitting. -/
theorem inRange_finished (formed : graph.WellFormed)
    (run : TierRun graph bundles walks) :
    ∀ group ∈ run.finished, Group.InRange graph group := by
  intro group among member found
  obtain ⟨old, old_among, own, own_found, same, fewer⟩ :=
    exists_of_mem_splitByStyling (run.distinct_groups formed) among found
  have ⟨known, others⟩ := run.inRange_groups formed old old_among own own_found
  exact ⟨same ▸ known, fun other because => others other (fewer other because)⟩

/-- So do the walks that a run remembers. -/
theorem inRange_last (formed : graph.WellFormed)
    (run : TierRun graph bundles walks) : run.last.InRange graph := by
  intro id order held
  obtain ⟨known, went⟩ := run.faithful id order held
  have start : ∀ other ∈ [id], other < graph.size := by simpa using known
  obtain ⟨order', went', found⟩ := Graph.exists_closureOf_lt formed start
  rw [went] at went'
  cases went'
  exact ⟨known, found⟩

end TierRun

namespace Project

variable {project : Project}

/-- The graph of a project with valid tags has its numbers in range. -/
theorem inRange_graph (valid : project.HasValidTags) (source : Source) :
    (project.graph source).InRange :=
  Graph.inRange_link (valid.wellFormed source)

/-- The graph that a plan is made of is that of the project. -/
theorem eq_graph_of_ofSources (valid : project.HasValidTags) {source : Source}
    {aborted : Bool} {graph : Graph}
    (built : (Graph.ofSources source aborted
        (project.components.map Component.normalize)
        project.document?).outcome = .ok graph) :
    project.graph source = graph := by
  cases aborted with
  | true =>
      rw [Graph.outcome_ofSources_aborted] at built
      cases built
  | false =>
      rw [Graph.outcome_ofSources valid.distinct] at built
      exact Except.ok.inj built

end Project

/-- Whatever its components, bundles and root document are and whatever can be
read of its sources, a project has a plan exactly when the build is not called
off and the tags are valid.  No other fault than those stops it: the planner
never breaks its own rules, and every number it looks up is that of a
component. -/
theorem plan_total (project : Project) (source : Source) (aborted : Bool) :
    ((∃ plan, project.plan source aborted = .ok plan) ↔
      aborted = false ∧ project.HasValidTags) ∧
    (∀ fault, project.plan source aborted = .error fault →
      fault = .aborted ∨ (∃ path, fault = .emptyTag path) ∨
        ∃ tag, fault = .repeatedTag tag) ∧
    ∀ components graph,
      Component.normalizeAll project.components = .ok components →
      (Graph.ofSources source aborted components project.document?).outcome =
        .ok graph →
      graph.InRange ∧
      ∃ groups walks,
        (planGroups graph project.bundles {}).outcome = .ok (groups, walks) ∧
        walks.InRange graph ∧
        (∀ group ∈ groups, Group.InRange graph group) ∧
        (∀ group ∈ splitByStyling graph groups, Group.InRange graph group) ∧
        checkGroups graph (splitByStyling graph groups) = .ok () := by
  refine ⟨Project.exists_plan_iff, fun fault => Project.cause_of_plan, ?_⟩
  intro components graph normal built
  obtain ⟨rfl, valid⟩ := Component.normalizeAll_eq_ok_iff.mp normal
  obtain rfl := Project.eq_graph_of_ofSources valid built
  have formed := Project.HasValidTags.wellFormed valid source
  obtain ⟨run⟩ := Project.HasValidTags.exists_run valid source
  exact ⟨Project.inRange_graph valid source, run.groups, run.last,
    run.outcome_planGroups, run.inRange_last formed, run.inRange_groups formed,
    run.inRange_finished formed, run.checkGroups_finished formed⟩

end CodeSplit
