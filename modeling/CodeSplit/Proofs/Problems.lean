/-
Module: CodeSplit.Proofs.Problems
Purpose: which problems a plan tells, in which order and in which words.
Main exports:
  Planning.Quiet, TierRun.problems_planEntries, Project.unreadableOutputs,
  Project.unreadableDocument, Project.undefinedDependencies,
  Project.undefinedEntries, Project.problems_of_plan,
  Project.hasErrors_of_plan, plan_problems
-/
import CodeSplit.Proofs.Reordering
import CodeSplit.Proofs.UnreadableSources

namespace CodeSplit

/-!
Problems are found in four places: where the outputs of the components are read,
where the root document is read, where the declared dependencies are looked up,
and where the bundles are.  Everything after the bundles tells about its work
without reporting any.

What is amiss with a project is listed apart from what is said about it: the lists
hold components, paths, tags and causes, and the severity, the words, the tag and
the file of each problem come in only at the end.
-/

/-! ### Computations that report nothing -/

namespace Planning

variable {α β : Type}

/-- The computation reports no problem, whatever else it tells. -/
def Quiet (planning : Planning α) : Prop :=
  planning.problems = []

theorem quiet_pure (result : α) : Quiet (pure result) := rfl

theorem quiet_fail (fault : Fault) : Quiet (fail fault : Planning α) := rfl

theorem quiet_ofExcept (outcome : Except Fault α) :
    Quiet (ofExcept outcome) := rfl

theorem quiet_note {event : Event} (silent : event.problem? = none) :
    Quiet (note event) := by
  rw [Quiet, problems_note, silent]
  rfl

theorem quiet_noteAll {events : List Event}
    (silent : ∀ event ∈ events, event.problem? = none) :
    Quiet (noteAll events) :=
  List.filterMap_eq_nil_iff.mpr silent

/-- What goes on quietly after a quiet beginning is quiet. -/
theorem quiet_bind {first : Planning α} {next : α → Planning β}
    (begun : Quiet first) (later : ∀ result, Quiet (next result)) :
    Quiet (first >>= next) := by
  cases went : first.outcome with
  | error fault =>
      rw [Quiet, problems, journal_bind, went]
      exact begun
  | ok result =>
      rw [Quiet, problems_bind_of_ok went, begun, later result]
      rfl

end Planning

open Planning

namespace Walks

theorem quiet_walkFrom (walks : Walks) (graph : Graph) (id : ComponentId) :
    Quiet (walks.walkFrom graph id) := by
  unfold walkFrom
  split
  · exact quiet_pure _
  · refine quiet_bind (quiet_ofExcept _) fun order =>
      quiet_bind (quiet_noteAll ?_) fun _ => quiet_pure _
    intro event told
    obtain ⟨reached, _, rfl⟩ := List.mem_map.mp told
    rfl

theorem quiet_walkFromAllOnto (walks : Walks) (graph : Graph)
    (reached ids : List ComponentId) :
    Quiet (walks.walkFromAllOnto graph reached ids) := by
  induction ids generalizing walks reached with
  | nil => exact quiet_pure _
  | cons id rest ih =>
      exact quiet_bind (walks.quiet_walkFrom graph id) fun walked =>
        ih walked.2 _

end Walks

namespace Placement

variable (placement : Placement) (graph : Graph)

theorem quiet_settle (pushed : Placement × Option Fault) :
    Quiet (settle pushed) := by
  obtain ⟨placement, fault?⟩ := pushed
  cases fault? with
  | none => exact quiet_pure _
  | some fault => exact quiet_fail _

theorem quiet_addDocument (walks : Walks) :
    Quiet (placement.addDocument graph walks) := by
  unfold addDocument
  split
  · exact quiet_pure _
  · refine quiet_bind (walks.quiet_walkFromAllOnto graph _ _) fun walked => ?_
    exact quiet_bind (quiet_note rfl) fun _ =>
      quiet_bind (quiet_settle _) fun _ => quiet_pure _

theorem quiet_addCommon (nodes : Residue) :
    Quiet (placement.addCommon graph nodes) := by
  unfold addCommon
  dsimp only
  split <;> exact quiet_bind (quiet_note rfl) fun _ => quiet_settle _

theorem quiet_addByDependents (id : ComponentId) (nodes : Residue) :
    Quiet (placement.addByDependents graph id nodes) := by
  unfold addByDependents
  split
  · exact quiet_bind (quiet_note rfl) fun _ => quiet_settle _
  · refine quiet_bind (quiet_note rfl) fun _ => ?_
    dsimp only
    split
    · exact quiet_ofExcept _
    · exact quiet_settle _
  · exact placement.quiet_addCommon graph _

theorem quiet_addResidue (residue nodes : Residue) :
    Quiet (placement.addResidue graph residue nodes) := by
  induction nodes generalizing placement with
  | nil => exact quiet_pure _
  | cons node rest ih =>
      unfold addResidue
      split
      · exact ih placement
      · exact quiet_bind (placement.quiet_addByDependents graph _ _) ih

theorem quiet_addShared (walks : Walks) (roots : List ComponentId) :
    Quiet (placement.addShared graph walks roots) := by
  unfold addShared
  refine quiet_bind (walks.quiet_walkFromAllOnto graph _ _) fun walked => ?_
  exact quiet_bind (quiet_note rfl) fun _ =>
    quiet_bind (placement.quiet_addResidue graph _ _) fun _ => quiet_pure _

end Placement

theorem quiet_stylingMoves (graph : Graph) (groups : List Group) :
    Quiet (noteAll (stylingMoves graph groups)) := by
  refine quiet_noteAll fun event told => ?_
  obtain ⟨group, _, told⟩ := List.mem_flatMap.mp told
  obtain ⟨mode, _, told⟩ := List.mem_filterMap.mp told
  dsimp only at told
  split at told
  · cases told
  · obtain rfl := Option.some.inj told
    rfl

/-! ### Problems of bundles -/

/-- The errors for the entries of a bundle that name no component of the graph,
in the order of the entries. -/
def Graph.unknownEntries (graph : Graph) (bundle : List String) (index : Nat)
    (entries : List String) : List Diagnostic :=
  ((entries.map normalizeTag).filter fun tag => (graph.idOf? tag).isNone).map
    fun tag => .unknownBundleTag tag index bundle

namespace Placement

variable {graph : Graph}

/-- What is claimed already does not matter to what a bundle reports. -/
theorem problems_claim (placement : Placement) (bundle : List String)
    (index : Nat) (claimed : List ComponentId) (entries : List String) :
    (placement.claim graph bundle index claimed entries).problems =
      graph.unknownEntries bundle index entries := by
  induction entries generalizing claimed with
  | nil => rfl
  | cons entry rest ih =>
      rw [claim]
      simp only [Graph.unknownEntries, List.map_cons, List.filter_cons]
      cases known : graph.idOf? (normalizeTag entry) with
      | none =>
          rw [problems_bind_of_ok rfl, ih]
          rfl
      | some id =>
          dsimp only
          split
          · rw [problems_bind_of_ok rfl, ih]
            rfl
          · exact ih _

/-- Bundles that can be placed report their entries one bundle after the
other. -/
theorem problems_addOrderedBundles {placement after : Placement}
    {ordered : List (List String × Nat)}
    (went : (placement.addOrderedBundles graph ordered).outcome = .ok after) :
    (placement.addOrderedBundles graph ordered).problems =
      ordered.flatMap fun (bundle, index) =>
        graph.unknownEntries bundle index bundle := by
  induction ordered generalizing placement with
  | nil => rfl
  | cons first rest ih =>
      obtain ⟨bundle, index⟩ := first
      rw [addOrderedBundles] at went ⊢
      obtain ⟨claimed, claims, went⟩ := exists_of_outcome_bind went
      obtain ⟨next, settled, went⟩ := exists_of_outcome_bind went
      rw [problems_bind_of_ok claims, problems_claim,
        problems_bind_of_ok settled, quiet_settle, ih went, List.flatMap_cons]
      rfl

end Placement

namespace TierRun

variable {graph : Graph} {bundles : List (List String)} {walks : Walks}

/-- Of all tiers only that of the bundles reports problems. -/
theorem problems_planGroups (run : TierRun graph bundles walks) :
    (planGroups graph bundles walks).problems =
      (Placement.orderBundles bundles).flatMap fun (bundle, index) =>
        graph.unknownEntries bundle index bundle := by
  rw [planGroups, problems_bind_of_ok run.outcome_bundles, Placement.addBundles,
    Placement.problems_addOrderedBundles run.outcome_bundles]
  apply List.append_right_eq_self.mpr
  refine quiet_bind (quiet_note rfl) fun _ => ?_
  refine quiet_bind (run.bundled.quiet_addDocument graph _) fun documented => ?_
  refine quiet_bind (quiet_note rfl) fun _ => ?_
  refine quiet_bind (documented.1.quiet_addShared graph _ _) fun shared => ?_
  exact quiet_bind (quiet_note rfl) fun _ => quiet_pure _

/-- Nothing after the groups reports problems. -/
theorem problems_planEntries (run : TierRun graph bundles {}) :
    (graph.planEntries bundles false).problems =
      (Placement.orderBundles bundles).flatMap fun (bundle, index) =>
        graph.unknownEntries bundle index bundle := by
  rw [Graph.planEntries, problems_bind_of_ok run.outcome_planGroups,
    run.problems_planGroups]
  apply List.append_right_eq_self.mpr
  refine quiet_bind (quiet_note rfl) fun _ => ?_
  rw [if_neg Bool.false_ne_true]
  refine quiet_bind (quiet_stylingMoves graph _) fun _ => ?_
  refine quiet_bind (quiet_ofExcept _) fun entries => ?_
  refine quiet_bind (quiet_noteAll fun event told => ?_) fun _ => quiet_pure _
  obtain ⟨entry, _, rfl⟩ := List.mem_map.mp told
  rfl

end TierRun

/-! ### Problems of a project -/

/-- Building a graph reports what the components declare and none of them is. -/
theorem Graph.problems_build {components : List Component}
    (mentions : Mentions) (documentTags : List String)
    (distinct : (components.map (·.tag)).Nodup) :
    (build components mentions documentTags).problems =
      unknownDependencies (orderByTag components) := by
  rw [build]
  simp only [repeatedTag?_orderByTag.mpr distinct]
  rw [problems_bind_of_ok rfl, problems_bind_of_ok rfl, problems_noteAll,
    problems_note, List.filterMap_map]
  have reported : Event.problem? ∘ Event.reported = some := rfl
  rw [reported, List.filterMap_some]
  exact List.append_nil _

namespace Project

variable (project : Project) (source : Source)

/-- The components whose output cannot be read, each with the cause, in the order
in which the project has them. -/
def unreadableOutputs : List (Component × ReadError) :=
  project.components.filterMap fun component =>
    match source component.source with
    | .error cause => some (component, cause)
    | .ok _ => none

/-- The root document, with the cause, if it cannot be read. -/
def unreadableDocument : List (Path × ReadError) :=
  match project.document? with
  | none => []
  | some path =>
      match source path with
      | .error cause => [(path, cause)]
      | .ok _ => []

/-- What a component declares to need and no component has as its tag, in the
order of the declaration.  A component whose output cannot be read is a component
still. -/
def undefinedDependencies (component : Component) : List String :=
  (component.dependencies.map normalizeTag).filter fun tag =>
    tag ≠ "" ∧ tag ∉ Component.normalTags project.components

/-- The entries of a bundle that are the tag of no component that can be read, in
the order of the entries. -/
def undefinedEntries (bundle : List String) : List String :=
  (bundle.map normalizeTag).filter fun tag =>
    tag ∉ Component.normalTags (project.readable source).components

variable {project source}

/-! ### Problems of sources -/

theorem problems_scanComponents :
    (Graph.scanComponents source
      (project.components.map Component.normalize)).filterMap
        (fun scan => (Graph.scanEvent scan).problem?) =
      (project.unreadableOutputs source).map fun (component, cause) =>
        .unreadableComponent (normalizeTag component.tag) component.source
          cause := by
  rw [Graph.scanComponents, List.filterMap_map, List.filterMap_map,
    unreadableOutputs, List.map_filterMap]
  refine List.filterMap_congr fun component _ => ?_
  simp only [Function.comp_apply, Component.source_normalize, Scan.ofSource]
  cases source component.source with
  | ok text => rfl
  | error cause =>
      simp only [Graph.scanEvent, Event.problem?, Component.tag_normalize,
        Component.source_normalize, Option.map_some]

theorem problems_scanDocument (tags : List String) :
    (Graph.scanDocument source tags project.document?).problems =
      (project.unreadableDocument source).map fun (path, cause) =>
        .unreadableDocument path cause := by
  unfold Graph.scanDocument unreadableDocument
  cases project.document? with
  | none => rfl
  | some path =>
      simp only [Scan.ofSource]
      cases source path <;> rfl

/-! ### Known and unknown tags -/

theorem knows_iff_mem_normalTags {tag : String} :
    project.Knows source tag ↔
      tag ∈ Component.normalTags (project.readable source).components := by
  rw [Component.normalTags, List.mem_map, Knows]
  simp only [mem_components_readable, and_assoc]

/-- A tag of the project is that of a component that cannot be read or of one
that can. -/
theorem mem_normalTags_iff (project : Project) (source : Source)
    {tag : String} :
    tag ∈ Component.normalTags project.components ↔
      tag ∈ Graph.unreadableTags (Graph.scanComponents source
          (project.components.map Component.normalize)) ∨
        tag ∈ Component.normalTags (project.readable source).components := by
  rw [← knows_iff_mem_normalTags, Graph.mem_unreadableTags,
    Component.normalTags, List.mem_map]
  constructor
  · intro given
    obtain ⟨component, among, rfl⟩ := given
    cases read : source component.source with
    | ok text => exact Or.inr ⟨component, among, ⟨text, read⟩, rfl⟩
    | error cause =>
        refine Or.inl ⟨component.normalize, List.mem_map_of_mem among,
          component.tag_normalize, cause, ?_⟩
        rw [Component.source_normalize, read]
  · rintro (⟨_, among, same, _⟩ | ⟨component, among, _, same⟩)
    · obtain ⟨component, own, rfl⟩ := List.mem_map.mp among
      rw [Component.tag_normalize] at same
      exact ⟨component, own, same⟩
    · exact ⟨component, among, same⟩

/-- The graph has no number for a tag that is not known. -/
theorem HasValidTags.idOf?_isNone_iff (valid : project.HasValidTags)
    {tag : String} :
    ((project.graph source).idOf? tag).isNone = true ↔
      tag ∉ Component.normalTags (project.readable source).components := by
  have represents := valid.represents source
  rw [← knows_iff_mem_normalTags, Option.isNone_iff_eq_none,
    Option.eq_none_iff_forall_ne_some, ← not_exists]
  apply not_congr
  constructor
  · intro given
    obtain ⟨id, found⟩ := given
    obtain ⟨known, rfl⟩ := represents.formed.idOf?_eq_some_iff.mp found
    exact represents.knows known
  · intro knows
    obtain ⟨id, known, same⟩ := represents.exists_of_knows knows
    exact ⟨id, represents.formed.idOf?_eq_some_iff.mpr ⟨known, same⟩⟩

theorem HasValidTags.unknownEntries_graph (valid : project.HasValidTags)
    (bundle : List String) (index : Nat) :
    (project.graph source).unknownEntries bundle index bundle =
      (project.undefinedEntries source bundle).map fun tag =>
        .unknownBundleTag tag index bundle := by
  rw [Graph.unknownEntries, undefinedEntries]
  congr 1
  refine List.filter_congr fun tag _ => ?_
  rw [Bool.eq_iff_iff, valid.idOf?_isNone_iff, decide_eq_true_eq]

/-! ### Problems of declarations -/

/-- The components that can be read, by tag. -/
def byTag (project : Project) (source : Source) : List Component :=
  (project.readable source).components.mergeSort fun one other =>
    normalizeTag one.tag ≤ normalizeTag other.tag

theorem byTag_perm : (project.byTag source).Perm
    (project.readable source).components :=
  List.mergeSort_perm _ _

/-- The components of the graph are those that can be read, by tag. -/
theorem HasValidTags.ordered_eq (valid : project.HasValidTags) :
    project.ordered source =
      (project.byTag source).map (project.kept source) := by
  have kept : Graph.exclude (Graph.unreadableTags (Graph.scanComponents source
        (project.components.map Component.normalize)))
        (project.components.map Component.normalize) =
      (project.readable source).components.map (project.kept source) := by
    rw [Graph.exclude, List.filter_map, List.map_map, Project.readable]
    congr 1
    refine List.filter_congr fun component among => ?_
    rw [Bool.eq_iff_iff, isOk_iff, Function.comp_apply, decide_eq_true_eq,
      Graph.tag_mem_unreadableTags_iff valid.distinct
        (List.mem_map_of_mem among), not_not, Component.readable_normalize]
    rfl
  rw [ordered, Graph.readableComponents, kept, Graph.orderByTag, byTag]
  refine (List.map_mergeSort fun one _ other _ => ?_).symm
  rw [tag_kept, tag_kept]

/-- Their tags are strictly ascending. -/
theorem HasValidTags.byTag_pairwise (valid : project.HasValidTags) :
    (project.byTag source).Pairwise fun one other =>
      normalizeTag one.tag < normalizeTag other.tag := by
  have ordered : ((project.ordered source).map (·.tag)).Pairwise (· ≤ ·) :=
    Graph.orderByTag_pairwise _
  have strict := (ordered.and (valid.distinct_ordered source)).imp
    fun both => lt_of_le_of_ne both.1 both.2
  rw [valid.ordered_eq, List.pairwise_map, List.pairwise_map] at strict
  exact strict.imp fun below => by simpa only [tag_kept] using below

theorem dependencies_kept (component : Component) :
    (project.kept source component).dependencies =
      ((component.dependencies.map normalizeTag).filter (· ≠ "")).filter
        (· ∉ Graph.unreadableTags (Graph.scanComponents source
          (project.components.map Component.normalize))) := by
  rw [kept, Component.normalize]

/-- What the graph reports of declarations is what the components that can be
read declare in vain. -/
theorem HasValidTags.unknownDependencies_ordered
    (valid : project.HasValidTags) :
    Graph.unknownDependencies (project.ordered source) =
      (project.byTag source).flatMap fun component =>
        (project.undefinedDependencies component).map fun needed =>
          .unknownDependency (normalizeTag component.tag) needed := by
  rw [valid.ordered_eq, Graph.unknownDependencies, List.flatMap_map]
  refine List.flatMap_congr fun component _ => ?_
  have tags (tag : String) :
      tag ∈ ((project.byTag source).map (project.kept source)).map (·.tag) ↔
        tag ∈ Component.normalTags (project.readable source).components := by
    rw [List.map_map]
    exact (byTag_perm.map _).mem_iff
  -- Empty and unreadable tags are dropped before the graph looks for the others.
  rw [tag_kept, undefinedDependencies, dependencies_kept, List.filter_filter,
    List.filter_filter]
  congr 1
  refine List.filter_congr fun tag _ => ?_
  rw [Bool.eq_iff_iff]
  simp only [Bool.and_eq_true, decide_eq_true_eq, tags,
    mem_normalTags_iff project source, not_or]
  tauto

end Project

/-! ### The order of all bundles -/

namespace Placement

/-- The bundles in the order in which they are placed, the empty ones, which are
not placed at all, behind the others. -/
def allBundles (bundles : List (List String)) : List (List String × Nat) :=
  orderBundles bundles ++
    bundles.zipIdx.filter fun bundle => bundle.1.isEmpty

theorem allBundles_perm (bundles : List (List String)) :
    (allBundles bundles).Perm bundles.zipIdx := by
  have parts := List.filter_append_perm
    (fun bundle => !bundle.1.isEmpty) bundles.zipIdx
  simp only [Bool.not_not] at parts
  exact ((List.mergeSort_perm _ _).append_right _).trans parts

theorem allBundles_pairwise (bundles : List (List String)) :
    (allBundles bundles).Pairwise BundlePrecedes := by
  have none_of_empty {bundle : List String × Nat}
      (empty : bundle ∈ bundles.zipIdx.filter fun bundle => bundle.1.isEmpty) :
      bundle.1.length = 0 := by
    simpa using (List.mem_filter.mp empty).2
  refine List.pairwise_append.mpr ⟨orderBundles_pairwise bundles, ?_, ?_⟩
  · refine ((zipIdx_pairwise bundles).filter _).imp_of_mem ?_
    intro one other empty empty' below
    exact Or.inr ⟨(none_of_empty empty').trans (none_of_empty empty).symm, below⟩
  · intro one placed other empty
    have some_entry := (mem_orderBundles.mp placed).2
    refine Or.inl ?_
    rw [none_of_empty empty]
    exact List.length_pos_iff.mpr some_entry

/-- Where empty bundles report nothing, all bundles report what the others
do. -/
theorem flatMap_allBundles {bundles : List (List String)}
    {report : List String × Nat → List Diagnostic}
    (none : ∀ index, report ([], index) = []) :
    (allBundles bundles).flatMap report =
      (orderBundles bundles).flatMap report := by
  rw [allBundles, List.flatMap_append]
  apply List.append_right_eq_self.mpr
  rw [List.flatMap_eq_nil_iff]
  intro bundle empty
  obtain ⟨entries, index⟩ := bundle
  obtain rfl : entries = [] := by
    simpa using (List.mem_filter.mp empty).2
  exact none index

end Placement

/-! ### Errors among problems -/

theorem hasErrors_append (one other : List Diagnostic) :
    hasErrors (one ++ other) = (hasErrors one || hasErrors other) :=
  List.any_append

theorem hasErrors_flatMap {α : Type} (xs : List α)
    (report : α → List Diagnostic) :
    hasErrors (xs.flatMap report) = true ↔
      ∃ x ∈ xs, hasErrors (report x) = true := by
  rw [hasErrors, List.any_flatMap, List.any_eq_true]
  rfl

/-- Where every report is an error, there are errors as soon as there is
anything to report. -/
theorem hasErrors_map_of_error {α : Type} {report : α → Diagnostic}
    (severe : ∀ x, (report x).severity = .error) (xs : List α) :
    hasErrors (xs.map report) = true ↔ xs ≠ [] := by
  cases xs <;> simp [hasErrors, severe]

theorem hasErrors_map_of_warning {α : Type} {report : α → Diagnostic}
    (mild : ∀ x, (report x).severity = .warning) (xs : List α) :
    hasErrors (xs.map report) = false := by
  simp [hasErrors, mild]

namespace Project

variable {project : Project} {source : Source}

theorem unreadableOutputs_ne_nil :
    project.unreadableOutputs source ≠ [] ↔
      ∃ component ∈ project.components, ¬ component.Readable source := by
  rw [unreadableOutputs, ne_eq, List.filterMap_eq_nil_iff]
  simp only [not_forall, exists_prop]
  refine exists_congr fun component => and_congr_right fun _ => ?_
  rw [Component.Readable]
  cases source component.source <;> simp

theorem unreadableDocument_ne_nil :
    project.unreadableDocument source ≠ [] ↔
      ∃ path, project.document? = some path ∧
        ∀ text, source path ≠ .ok text := by
  rw [unreadableDocument]
  cases project.document? with
  | none => simp
  | some path => cases read : source path <;> simp [read]

theorem undefinedEntries_ne_nil {bundle : List String} :
    project.undefinedEntries source bundle ≠ [] ↔
      ∃ entry ∈ bundle, ¬ project.Knows source (normalizeTag entry) := by
  simp [undefinedEntries, knows_iff_mem_normalTags]

/-- Some bundle reports an error where some bundle has an entry in vain. -/
theorem hasErrors_allBundles
    {report : List String × Nat → String → Diagnostic}
    (severe : ∀ bundle tag, (report bundle tag).severity = .error) :
    hasErrors ((Placement.allBundles project.bundles).flatMap fun bundle =>
        (project.undefinedEntries source bundle.1).map (report bundle)) =
        true ↔
      ∃ bundle ∈ project.bundles, ∃ entry ∈ bundle,
        ¬ project.Knows source (normalizeTag entry) := by
  simp only [hasErrors_flatMap, hasErrors_map_of_error (severe _),
    undefinedEntries_ne_nil, (Placement.allBundles_perm _).mem_iff]
  constructor
  · intro given
    obtain ⟨⟨bundle, index⟩, among, in_vain⟩ := given
    rw [List.mem_zipIdx_iff_getElem?] at among
    exact ⟨bundle, List.mem_of_getElem? among, in_vain⟩
  · intro given
    obtain ⟨bundle, among, in_vain⟩ := given
    obtain ⟨index, at_index⟩ := List.mem_iff_getElem?.mp among
    exact ⟨(bundle, index), List.mem_zipIdx_iff_getElem?.mpr at_index, in_vain⟩

/-- The problems of a plan are those of the sources, then those of the
declarations, by tag, then those of the bundles, as they are placed. -/
theorem problems_of_plan {aborted : Bool} {plan : Plan}
    (planned : project.plan source aborted = .ok plan) :
    plan.problems =
      ((project.unreadableOutputs source).map fun (component, cause) =>
        .unreadableComponent (normalizeTag component.tag) component.source
          cause) ++
      ((project.unreadableDocument source).map fun (path, cause) =>
        .unreadableDocument path cause) ++
      ((project.byTag source).flatMap fun component =>
        (project.undefinedDependencies component).map fun needed =>
          .unknownDependency (normalizeTag component.tag) needed) ++
      (Placement.allBundles project.bundles).flatMap fun (bundle, index) =>
        (project.undefinedEntries source bundle).map fun entry =>
          .unknownBundleTag entry index bundle := by
  obtain ⟨rfl, valid⟩ := valid_of_plan planned
  obtain ⟨run⟩ := valid.exists_run source
  rw [← (planning_of_plan planned).2, problems_planning valid,
    Graph.problems_ofSources valid.distinct, problems_scanComponents,
    problems_scanDocument,
    Graph.problems_build _ _ (Graph.nodup_exclude valid.distinct _),
    run.problems_planEntries, Placement.flatMap_allBundles fun _ => rfl,
    ← valid.unknownDependencies_ordered]
  simp only [valid.unknownEntries_graph, List.append_assoc]
  rfl

/-- A plan has errors exactly if something cannot be read or an entry of a bundle
is in vain. -/
theorem hasErrors_of_plan {aborted : Bool} {plan : Plan}
    (planned : project.plan source aborted = .ok plan) :
    plan.hasErrors = true ↔
      (∃ component ∈ project.components, ¬ component.Readable source) ∨
      (∃ path, project.document? = some path ∧
        ∀ text, source path ≠ .ok text) ∨
      ∃ bundle ∈ project.bundles, ∃ entry ∈ bundle,
        ¬ project.Knows source (normalizeTag entry) := by
  have declared : hasErrors ((project.byTag source).flatMap fun component =>
      (project.undefinedDependencies component).map fun needed =>
        .unknownDependency (normalizeTag component.tag) needed) = false := by
    rw [Bool.eq_false_iff, ne_eq, hasErrors_flatMap]
    simp [hasErrors_map_of_warning, Diagnostic.unknownDependency]
  rw [Plan.hasErrors, problems_of_plan planned]
  simp only [hasErrors_append, Bool.or_eq_true, declared, Bool.false_eq_true,
    or_false, or_assoc]
  refine or_congr ?_ (or_congr ?_ ?_)
  · exact (hasErrors_map_of_error (fun _ => rfl) _).trans
      unreadableOutputs_ne_nil
  · exact (hasErrors_map_of_error (fun _ => rfl) _).trans
      unreadableDocument_ne_nil
  · exact hasErrors_allBundles fun _ _ => rfl

end Project

/-- The problems of a plan, in order: the outputs that cannot be read, the root
document that cannot be read, what the components that can be read declare in
vain, by tag, and the entries in vain of the bundles, larger bundles first and
numbered from one as they were declared.  The plan has errors exactly if
something cannot be read or an entry is in vain. -/
theorem plan_problems {project : Project} {source : Source} {aborted : Bool}
    {plan : Plan} (planned : project.plan source aborted = .ok plan) :
    (∃ (components : List Component) (bundles : List (List String × Nat)),
      components.Perm (project.readable source).components ∧
      components.Pairwise (fun one other =>
        normalizeTag one.tag < normalizeTag other.tag) ∧
      bundles.Perm project.bundles.zipIdx ∧
      bundles.Pairwise BundlePrecedes ∧
      plan.problems =
        ((project.unreadableOutputs source).map fun (component, cause) =>
          { severity := .error
            message :=
              "Unable to read compiled output of component \"" ++
                normalizeTag component.tag ++ "\": " ++ cause.message ++
                ". The component is excluded from this build."
            tag? := some (normalizeTag component.tag)
            file? := some component.source }) ++
        ((project.unreadableDocument source).map fun (path, cause) =>
          { severity := .error
            message := "Unable to read root document: " ++ cause.message
            tag? := none
            file? := some path }) ++
        (components.flatMap fun component =>
          (project.undefinedDependencies component).map fun needed =>
            { severity := .warning
              message :=
                "Component \"" ++ normalizeTag component.tag ++
                  "\" declares a dependency on \"" ++ needed ++
                  "\", which is not a known component; " ++
                  "the dependency is ignored."
              tag? := some (normalizeTag component.tag)
              file? := none }) ++
        (bundles.flatMap fun (bundle, index) =>
          (project.undefinedEntries source bundle).map fun entry =>
            { severity := .error
              message :=
                "Component tag \"" ++ entry ++ "\" is defined in bundle #" ++
                  toString (index + 1) ++ " [" ++ ", ".intercalate bundle ++
                  "] but no matching component was found within this app " ++
                  "or its collections."
              tag? := some entry
              file? := none })) ∧
    (plan.hasErrors = true ↔
      (∃ component ∈ project.components, ¬ component.Readable source) ∨
      (∃ path, project.document? = some path ∧
        ∀ text, source path ≠ .ok text) ∨
      ∃ bundle ∈ project.bundles, ∃ entry ∈ bundle,
        ¬ project.Knows source (normalizeTag entry)) := by
  obtain ⟨_, valid⟩ := Project.valid_of_plan planned
  refine ⟨⟨_, _, Project.byTag_perm, valid.byTag_pairwise,
    Placement.allBundles_perm _, Placement.allBundles_pairwise _, ?_⟩,
    Project.hasErrors_of_plan planned⟩
  -- The texts differ only in how they are put together.
  rw [Project.problems_of_plan planned]
  simp only [Diagnostic.unreadableComponent, Diagnostic.unreadableDocument,
    Diagnostic.unknownDependency, Diagnostic.unknownBundleTag,
    String.append_assoc]
  rfl

/-- A sketch of the shop: its application declares to need a banner whose output
is missing and an icon that nobody has, the second and larger bundle asks for the
banner and a cart, the first for the cart, and the root document is missing. -/
def shopSketch : Project where
  components :=
    [{ shopApp with dependencies := ["shop-banner", " Shop-Icon"] }, shopBanner,
      shopCard]
  bundles := [["shop-cart"], ["Shop-Banner", "shop-card", "SHOP-CART "]]
  document? := some ⟨"index.html"⟩

/-- Each part of the sketch has its problems, the larger bundle before the one
that is declared first. -/
theorem plan_problems_shop :
    ∃ plan, shopSketch.plan shopSource false = .ok plan ∧
      plan.hasErrors = true ∧
      plan.problems =
        [{ severity := .error
           message :=
             "Unable to read compiled output of component \"shop-banner\": " ++
               "No such file or directory (os error 2). " ++
               "The component is excluded from this build."
           tag? := some "shop-banner"
           file? := some ⟨"banner.js"⟩ },
         { severity := .error
           message :=
             "Unable to read root document: " ++
               "No such file or directory (os error 2)"
           tag? := none
           file? := some ⟨"index.html"⟩ },
         { severity := .warning
           message :=
             "Component \"shop-app\" declares a dependency on " ++
               "\"shop-icon\", which is not a known component; " ++
               "the dependency is ignored."
           tag? := some "shop-app"
           file? := none },
         { severity := .error
           message :=
             "Component tag \"shop-banner\" is defined in bundle #2 " ++
               "[Shop-Banner, shop-card, SHOP-CART ] but no matching " ++
               "component was found within this app or its collections."
           tag? := some "shop-banner"
           file? := none },
         { severity := .error
           message :=
             "Component tag \"shop-cart\" is defined in bundle #2 " ++
               "[Shop-Banner, shop-card, SHOP-CART ] but no matching " ++
               "component was found within this app or its collections."
           tag? := some "shop-cart"
           file? := none },
         { severity := .error
           message :=
             "Component tag \"shop-cart\" is defined in bundle #1 " ++
               "[shop-cart] but no matching component was found within " ++
               "this app or its collections."
           tag? := some "shop-cart"
           file? := none }] := by
  have valid : shopSketch.HasValidTags := by
    have tags : Component.normalTags shopSketch.components =
        ["shop-app", "shop-banner", "shop-card"] := by decide +kernel
    rw [Project.HasValidTags, tags]
    decide
  obtain ⟨plan, planned⟩ := Project.exists_plan_iff.mpr
    ⟨(rfl : false = false), valid⟩
  obtain ⟨⟨components, bundles, perm, sorted, perm', sorted', told⟩, errors⟩ :=
    plan_problems planned
  have unread : ¬ shopBanner.Readable shopSource := by
    rintro ⟨_, read⟩
    cases read
  refine ⟨plan, planned, errors.mpr (Or.inl ⟨shopBanner, ?_, unread⟩), ?_⟩
  · exact List.mem_cons_of_mem _ List.mem_cons_self
  -- Both orders are strict, so they leave no choice.
  have ascending : (shopSketch.readable shopSource).components.Pairwise
      fun one other => normalizeTag one.tag < normalizeTag other.tag := by
    decide +kernel
  obtain rfl := perm.eq_of_pairwise
    (fun _ _ _ _ below above => absurd above (lt_asymm below)) sorted ascending
  have placed : shopSketch.bundles.zipIdx.reverse.Pairwise BundlePrecedes := by
    simp [shopSketch, BundlePrecedes]
  obtain rfl := (perm'.trans (List.reverse_perm _).symm).eq_of_pairwise
    (fun _ _ _ _ first second => absurd second first.asymm) sorted' placed
  rw [told]
  decide +kernel

end CodeSplit
