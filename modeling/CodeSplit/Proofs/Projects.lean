/-
Module: CodeSplit.Proofs.Projects
Purpose: when a project has a plan, and what stops it otherwise.
Main exports:
  Project.HasValidTags, Project.graph, Project.outcome_planning,
  Project.exists_plan_iff, Project.cause_of_plan, Project.entries_of_plan,
  Project.exists_plan_of_planGroups, Project.exists_plan_silent
-/
import CodeSplit.Proofs.Finished
import CodeSplit.Proofs.Sources

namespace CodeSplit.Project

variable {project : Project} {source : Source}

/-! ### Valid tags -/

/-- The tags of a project, trimmed and in lower case, are distinct and not
empty. -/
def HasValidTags (project : Project) : Prop :=
  "" ∉ Component.normalTags project.components ∧
    (Component.normalTags project.components).Nodup

/-- The graph of a project. -/
def graph (project : Project) (source : Source) : Graph :=
  Graph.sourceGraph source (project.components.map Component.normalize)
    project.document?

theorem HasValidTags.normalizeAll (valid : project.HasValidTags) :
    Component.normalizeAll project.components =
      .ok (project.components.map Component.normalize) :=
  Component.normalizeAll_eq_ok_iff.mpr ⟨rfl, valid.1, valid.2⟩

theorem HasValidTags.distinct (valid : project.HasValidTags) :
    ((project.components.map Component.normalize).map (·.tag)).Nodup := by
  rw [Component.map_tag_normalize]
  exact valid.2

theorem HasValidTags.wellFormed (valid : project.HasValidTags)
    (source : Source) : (project.graph source).WellFormed :=
  Graph.wellFormed_sourceGraph source valid.distinct project.document?

/-- The tiers have a run on the graph of a project. -/
theorem HasValidTags.exists_run (valid : project.HasValidTags)
    (source : Source) :
    Nonempty (TierRun (project.graph source) project.bundles {}) :=
  exists_tierRun (valid.wellFormed source) project.bundles
    (Walks.faithful_nil _)

/-! ### Outcomes -/

/-- With valid tags, planning ends with the entry modules of the finished
groups. -/
theorem outcome_planning (valid : project.HasValidTags)
    (run : TierRun (project.graph source) project.bundles {}) :
    (project.planning source false).outcome =
      .ok (run.finished.map (Entry.ofGroup (project.graph source))) := by
  rw [planning, Planning.outcome_bind_of_ok rfl,
    Planning.outcome_bind_of_ok valid.normalizeAll,
    Planning.outcome_bind_of_ok
      (Graph.outcome_ofSources valid.distinct project.document?)]
  exact run.outcome_planEntries (valid.wellFormed source)

/-- With valid tags, a build that is called off has no plan for that reason. -/
theorem outcome_planning_aborted (valid : project.HasValidTags)
    (source : Source) :
    (project.planning source true).outcome = .error .aborted := by
  rw [planning, Planning.outcome_bind_of_ok rfl,
    Planning.outcome_bind_of_ok valid.normalizeAll, Planning.outcome_bind,
    Graph.outcome_ofSources_aborted]

/-- What keeps the components from being normalized keeps the project from being
planned. -/
theorem outcome_planning_of_error {fault : Fault}
    (refused : Component.normalizeAll project.components = .error fault)
    (source : Source) (aborted : Bool) :
    (project.planning source aborted).outcome = .error fault := by
  rw [planning, Planning.outcome_bind_of_ok rfl, Planning.outcome_bind,
    Planning.outcome_ofExcept, refused]

/-- Without valid tags there is no plan, and the fault names a tag. -/
theorem exists_fault_of_not_hasValidTags (invalid : ¬ project.HasValidTags)
    (source : Source) (aborted : Bool) :
    ∃ fault, (project.planning source aborted).outcome = .error fault ∧
      ((∃ path, fault = .emptyTag path) ∨ ∃ tag, fault = .repeatedTag tag) := by
  cases went : Component.normalizeAll project.components with
  | ok components =>
      exact absurd (Component.normalizeAll_eq_ok_iff.mp went).2 invalid
  | error fault =>
      exact ⟨fault, outcome_planning_of_error went source aborted,
        Component.fault_of_normalizeFrom went⟩

/-- The plan has the entry modules that planning ends with. -/
theorem plan_eq_of_ok {aborted : Bool} {entries : List Entry}
    (went : (project.planning source aborted).outcome = .ok entries) :
    project.plan source aborted = .ok
      { entries := entries,
        problems := (project.planning source aborted).problems } := by
  simp only [plan, went]

theorem plan_eq_of_error {aborted : Bool} {fault : Fault}
    (stopped : (project.planning source aborted).outcome = .error fault) :
    project.plan source aborted = .error fault := by
  simp only [plan, stopped]

/-- A plan is there only for valid tags and a build that is not called off. -/
theorem valid_of_plan {aborted : Bool} {plan : Plan}
    (planned : project.plan source aborted = .ok plan) :
    aborted = false ∧ project.HasValidTags := by
  by_cases valid : project.HasValidTags
  · cases aborted with
    | false => exact ⟨rfl, valid⟩
    | true =>
        rw [plan_eq_of_error (outcome_planning_aborted valid source)] at planned
        cases planned
  · obtain ⟨fault, stopped, _⟩ :=
      exists_fault_of_not_hasValidTags valid source aborted
    rw [plan_eq_of_error stopped] at planned
    cases planned

/-- A project has a plan exactly when its tags are valid and the build is not
called off. -/
theorem exists_plan_iff {aborted : Bool} :
    (∃ plan, project.plan source aborted = .ok plan) ↔
      aborted = false ∧ project.HasValidTags := by
  constructor
  · intro given
    obtain ⟨plan, planned⟩ := given
    exact valid_of_plan planned
  · intro given
    obtain ⟨rfl, valid⟩ := given
    obtain ⟨run⟩ := valid.exists_run source
    exact ⟨_, plan_eq_of_ok (outcome_planning valid run)⟩

/-- What stops a plan is the build being called off or a tag. -/
theorem cause_of_plan {aborted : Bool} {fault : Fault}
    (stopped : project.plan source aborted = .error fault) :
    fault = .aborted ∨ (∃ path, fault = .emptyTag path) ∨
      ∃ tag, fault = .repeatedTag tag := by
  by_cases valid : project.HasValidTags
  · cases aborted with
    | true =>
        rw [plan_eq_of_error (outcome_planning_aborted valid source)] at stopped
        exact Or.inl (Except.error.inj stopped).symm
    | false =>
        obtain ⟨plan, planned⟩ : ∃ plan, project.plan source false = .ok plan :=
          exists_plan_iff.mpr ⟨rfl, valid⟩
        rw [planned] at stopped
        cases stopped
  · obtain ⟨other, went, cause⟩ :=
      exists_fault_of_not_hasValidTags valid source aborted
    rw [plan_eq_of_error went] at stopped
    obtain rfl := Except.error.inj stopped
    exact Or.inr cause

/-- The entry modules of a plan are those of the finished groups. -/
theorem entries_of_plan {aborted : Bool} {plan : Plan}
    (planned : project.plan source aborted = .ok plan)
    (run : TierRun (project.graph source) project.bundles {}) :
    plan.entries =
      run.finished.map (Entry.ofGroup (project.graph source)) := by
  obtain ⟨rfl, valid⟩ := valid_of_plan planned
  rw [plan_eq_of_ok (outcome_planning valid run)] at planned
  cases planned
  rfl

/-! ### Plans that are worked out -/

/-- The plan of a project whose graph and groups are known. -/
theorem exists_plan_of_planGroups {graph : Graph} {groups : List Group}
    (valid : project.HasValidTags) (own : project.graph source = graph)
    (grouped : (planGroups graph project.bundles {}).outcome.map (·.1) =
      .ok groups) :
    ∃ plan, project.plan source false = .ok plan ∧
      plan.entries =
        (splitByStyling graph groups).map (Entry.ofGroup graph) := by
  subst own
  obtain ⟨run⟩ := valid.exists_run source
  obtain ⟨plan, planned⟩ := exists_plan_iff.mpr ⟨rfl, valid⟩
  rw [run.outcome_planGroups] at grouped
  obtain rfl : run.groups = groups := Except.ok.inj grouped
  exact ⟨plan, planned, entries_of_plan planned run⟩

/-- The source in which every text is empty. -/
def silent : Source := fun _ => .ok ""

/-- Where no text mentions anything, components in normal form and in order are
linked by what they declare alone. -/
theorem graph_silent {components : List Component}
    (normal : project.components.map Component.normalize = components)
    (ordered : components.Pairwise fun one other => one.tag ≤ other.tag)
    (no_document : project.document? = none) :
    project.graph silent = Graph.link components
      (components.map fun component => (component.tag, [])) [] := by
  have scans : Graph.scanComponents silent components =
      components.map fun component => (component, .ok []) := rfl
  have unread : Graph.unreadableTags (Graph.scanComponents silent components) =
      [] := by
    rw [scans, Graph.unreadableTags, List.filterMap_map,
      List.filterMap_eq_nil_iff]
    exact fun _ _ => rfl
  have all : Graph.readableComponents silent components = components := by
    have none_excluded : Graph.exclude [] components = components := by
      simp [Graph.exclude]
    rw [Graph.readableComponents, unread, none_excluded]
    exact Graph.orderByTag_eq_self ordered
  have mentions : Graph.mentionsOf (Graph.scanComponents silent components) =
      components.map fun component => (component.tag, []) := by
    rw [scans, Graph.mentionsOf, List.filterMap_map]
    exact congrFun List.filterMap_eq_map components
  rw [graph, normal, no_document, Graph.sourceGraph, all, mentions]
  rfl

/-- The plan of such a project, from its graph and groups. -/
theorem exists_plan_silent {components : List Component} {graph : Graph}
    {groups : List Group}
    (normal : project.components.map Component.normalize = components)
    (ascends : components.Pairwise fun one other => one.tag < other.tag)
    (some_tag : "" ∉ components.map (·.tag))
    (no_document : project.document? = none)
    (linked : Graph.link components
      (components.map fun component => (component.tag, [])) [] = graph)
    (grouped : (planGroups graph project.bundles {}).outcome.map (·.1) =
      .ok groups) :
    ∃ plan, project.plan silent false = .ok plan ∧
      plan.entries =
        (splitByStyling graph groups).map (Entry.ofGroup graph) := by
  have valid : project.HasValidTags := by
    rw [HasValidTags, ← Component.map_tag_normalize, normal]
    exact ⟨some_tag, List.pairwise_map.mpr (ascends.imp ne_of_lt)⟩
  have own := (graph_silent normal (ascends.imp le_of_lt) no_document).trans
    linked
  exact exists_plan_of_planGroups valid own grouped

end CodeSplit.Project
