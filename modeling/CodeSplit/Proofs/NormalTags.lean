/-
Module: CodeSplit.Proofs.NormalTags
Purpose: tags in their normal form stay as they are, so it does not matter
  whether a project is normalized before it is planned.
Main exports:
  normalizeTag_normalizeTag, Component.exists_error_iff,
  Graph.settledGroups_map_normalizeTag, plan_normalize
-/
import CodeSplit.ProjectFile
import CodeSplit.Proofs.Lowered
import CodeSplit.Proofs.UnreadableSources

namespace CodeSplit

/-!
Tags are brought into their normal form in three places: when a project file is
read, when a project is planned, and when the entries of a bundle are looked up.
All three agree because the normal form of a tag in normal form is that tag.
-/

/-- The normal form of a tag in normal form is that tag. -/
@[simp] theorem normalizeTag_normalizeTag (tag : String) :
    normalizeTag (normalizeTag tag) = normalizeTag tag := by
  unfold normalizeTag Text.trim Text.lowerCase
  simp only [String.toList_ofList, Text.trimChars_lowerChars_trimChars,
    Text.lowerChars_lowerChars]

/-! ### Components -/

namespace Component

@[simp] theorem normalize_normalize (component : Component) :
    component.normalize.normalize = component.normalize := by
  have kept : component.normalize.dependencies.map normalizeTag =
      component.normalize.dependencies := by
    apply (List.map_congr_left _).trans (List.map_id _)
    intro tag found
    obtain ⟨declared, _, rfl⟩ := List.mem_map.mp (List.mem_of_mem_filter found)
    exact normalizeTag_normalizeTag declared
  rw [normalize, kept, tag_normalize, normalizeTag_normalizeTag]
  simp [normalize]

/-- Normalized components have the normal tags of those they were made from. -/
theorem normalTags_map_normalize (components : List Component) :
    normalTags (components.map normalize) = normalTags components := by
  simp [normalTags, Function.comp_def]

/-- Normalizing components again changes nothing, and is not refused either. -/
theorem normalizeAll_of_normalizeAll {components normal : List Component}
    (went : normalizeAll components = .ok normal) :
    normalizeAll normal = .ok normal := by
  obtain ⟨rfl, some_tag, distinct⟩ := normalizeAll_eq_ok_iff.mp went
  apply normalizeAll_eq_ok_iff.mpr
  rw [normalTags_map_normalize, List.map_map]
  refine ⟨?_, some_tag, distinct⟩
  exact List.map_congr_left fun component _ =>
    (normalize_normalize component).symm

/-- Of components behind others, the first one or those behind it are refused. -/
theorem exists_normalizeFrom_cons_error_iff {seen : List String}
    {component : Component} {rest : List Component} :
    (∃ fault, normalizeFrom seen (component :: rest) = .error fault) ↔
      (normalizeTag component.tag = "" ∨ normalizeTag component.tag ∈ seen) ∨
        ∃ fault, normalizeFrom (normalizeTag component.tag :: seen) rest =
          .error fault := by
  rw [normalizeFrom, tag_normalize]
  by_cases empty : normalizeTag component.tag = ""
  · simp [empty]
  · by_cases repeated : normalizeTag component.tag ∈ seen
    · simp [empty, repeated]
    · cases normalizeFrom (normalizeTag component.tag :: seen) rest <;>
        simp [empty, repeated]

/-- Components are refused behind others exactly if the normal tag of one of
them is empty or that of a component before it. -/
theorem exists_normalizeFrom_error_iff {seen : List String}
    {components : List Component} :
    (∃ fault, normalizeFrom seen components = .error fault) ↔
      ∃ front component back, components = front ++ component :: back ∧
        (normalizeTag component.tag = "" ∨
          normalizeTag component.tag ∈ normalTags front ++ seen) := by
  induction components generalizing seen with
  | nil => simp [normalizeFrom]
  | cons first rest ih =>
      have among {component : Component} {front : List Component} :
          normalizeTag component.tag ∈
              normalTags front ++ normalizeTag first.tag :: seen ↔
            normalizeTag component.tag ∈
              normalTags (first :: front) ++ seen := by
        rw [normalTags_cons, List.cons_append, List.mem_cons,
          List.perm_middle.mem_iff, List.mem_cons]
      rw [exists_normalizeFrom_cons_error_iff, ih]
      constructor
      · rintro (stops | ⟨front, component, back, rfl, stops⟩)
        · exact ⟨[], first, rest, rfl, stops⟩
        · exact ⟨first :: front, component, back, rfl, stops.imp_right among.mp⟩
      · rintro ⟨front, component, back, whole, stops⟩
        cases front with
        | nil =>
            obtain ⟨rfl, rfl⟩ := List.cons.inj whole
            exact Or.inl stops
        | cons other front =>
            obtain ⟨rfl, rfl⟩ := List.cons.inj whole
            exact Or.inr
              ⟨front, component, back, rfl, stops.imp_right among.mpr⟩

/-- Components cannot be normalized exactly if the normal tag of one of them is
empty or that of an earlier one. -/
theorem exists_normalizeAll_error_iff {components : List Component} :
    (∃ fault, normalizeAll components = .error fault) ↔
      ∃ front component back, components = front ++ component :: back ∧
        (normalizeTag component.tag = "" ∨
          normalizeTag component.tag ∈ normalTags front) := by
  rw [normalizeAll, exists_normalizeFrom_error_iff]
  simp only [List.append_nil]

end Component

/-! ### Bundles -/

/-- A bundle with its entries in normal form. -/
def normalizeBundle (bundle : List String) : List String :=
  bundle.map normalizeTag

/-- Normal forms change neither the number of entries of a bundle nor its place
among the others. -/
theorem Placement.orderBundles_map_normalizeBundle
    (bundles : List (List String)) :
    orderBundles (bundles.map normalizeBundle) =
      (orderBundles bundles).map (Prod.map normalizeBundle id) := by
  have nonempty : (fun bundle : List String × Nat => !bundle.1.isEmpty) ∘
      Prod.map normalizeBundle id = fun bundle => !bundle.1.isEmpty := by
    funext bundle
    simp [normalizeBundle]
  rw [orderBundles, List.zipIdx_map, List.filter_map, nonempty, orderBundles]
  symm
  apply List.map_mergeSort
  intro one _ other _
  simp [normalizeBundle]

namespace Graph

variable (graph : Graph)

/-- A bundle gets the same components by the normal forms of its entries. -/
theorem settleBundle_normalizeBundle (groups : List Group)
    (bundle : List String) :
    graph.settleBundle groups (normalizeBundle bundle) =
      graph.settleBundle groups bundle := by
  simp only [settleBundle, normalizeBundle, List.filterMap_map,
    Function.comp_def, normalizeTag_normalizeTag]

theorem settledGroups_map_normalizeBundle (bundles : List (List String)) :
    graph.settledGroups (bundles.map normalizeBundle) =
      graph.settledGroups bundles := by
  have same : graph.settleBundles (bundles.map normalizeBundle) =
      graph.settleBundles bundles := by
    simp only [settleBundles, Placement.orderBundles_map_normalizeBundle,
      List.foldl_map, Prod.map_fst, settleBundle_normalizeBundle]
  rw [settledGroups, same, settledGroups]

end Graph

/-! ### Projects -/

namespace Project

variable {project : Project} {source : Source} {aborted : Bool}

/-- The project with the normal forms of its tags, whether or not they are
valid. -/
def normalized (project : Project) : Project :=
  { project with
    components := project.components.map Component.normalize
    bundles := project.bundles.map normalizeBundle }

theorem HasValidTags.normalize_eq (valid : project.HasValidTags) :
    project.normalize = .ok project.normalized := by
  rw [Project.normalize, valid.normalizeAll]
  rfl

theorem HasValidTags.normalized (valid : project.HasValidTags) :
    project.normalized.HasValidTags := by
  unfold HasValidTags Project.normalized
  rw [Component.normalTags_map_normalize]
  exact valid

theorem graph_normalized (project : Project) (source : Source) :
    project.normalized.graph source = project.graph source := by
  have same : project.normalized.components.map Component.normalize =
      project.components.map Component.normalize := by
    simp [Project.normalized, Function.comp_def]
  rw [graph, same, graph]
  rfl

/-- A project with valid tags has the entry modules of its normal form. -/
theorem HasValidTags.entries_normalized (valid : project.HasValidTags)
    (source : Source) (aborted : Bool) :
    (project.normalized.plan source aborted).map Plan.entries =
      (project.plan source aborted).map Plan.entries := by
  cases aborted with
  | true =>
      rw [plan_eq_of_error (outcome_planning_aborted valid source),
        plan_eq_of_error (outcome_planning_aborted valid.normalized source)]
  | false =>
      obtain ⟨plan, planned⟩ := exists_plan_iff.mpr
        ⟨(rfl : false = false), valid⟩
      obtain ⟨plan', planned'⟩ := exists_plan_iff.mpr
        ⟨(rfl : false = false), valid.normalized⟩
      have bundles : project.normalized.bundles =
          project.bundles.map normalizeBundle := rfl
      have same : plan'.entries = plan.entries := by
        rw [entries_of_plan_settled planned, entries_of_plan_settled planned',
          graph_normalized, bundles, Graph.settledGroups_map_normalizeBundle]
      rw [planned, planned', Except.map, Except.map, same]

end Project

/-- Components are normalized twice as well as once, and they are refused exactly
if the normal tag of one of them is empty or that of an earlier one.  So planning
a project and planning its normal form come to the same: to the same fault, be it
one of normalizing or of planning, or else to the same entry modules. -/
theorem plan_normalize (project : Project) (source : Source)
    (aborted : Bool) :
    (Component.normalizeAll project.components >>= Component.normalizeAll) =
      Component.normalizeAll project.components ∧
    ((∃ fault, Component.normalizeAll project.components = .error fault) ↔
      ∃ front component back,
        project.components = front ++ component :: back ∧
        (normalizeTag component.tag = "" ∨
          normalizeTag component.tag ∈ Component.normalTags front)) ∧
    (project.normalize >>= fun normal =>
        (normal.plan source aborted).map Plan.entries) =
      (project.plan source aborted).map Plan.entries := by
  refine ⟨?_, Component.exists_normalizeAll_error_iff, ?_⟩
  · cases went : Component.normalizeAll project.components with
    | error fault => rfl
    | ok normal => exact Component.normalizeAll_of_normalizeAll went
  · cases went : Component.normalizeAll project.components with
    | error fault =>
        have stopped := Project.plan_eq_of_error
          (Project.outcome_planning_of_error went source aborted)
        rw [Project.normalize, went, stopped]
        rfl
    | ok normal =>
        have valid : project.HasValidTags :=
          (Component.normalizeAll_eq_ok_iff.mp went).2
        rw [valid.normalize_eq]
        exact valid.entries_normalized source aborted

end CodeSplit
