/-
Module: CodeSplit.Proofs.Reordering
Purpose: the order in which components are declared matters to nothing but the
  order of the problems that are reported.
Main exports:
  Graph.build_eq_of_perm, Graph.problems_ofSources, plan_perm
-/
import CodeSplit.Proofs.Coverage

namespace CodeSplit

/-! ### Problems of a computation -/

namespace Planning

variable {α β : Type}

@[simp] theorem problems_pure (result : α) :
    (pure result : Planning α).problems = [] := rfl

@[simp] theorem problems_note (event : Event) :
    (note event).problems = event.problem?.toList := by
  cases told : event.problem? <;> simp [problems, told]

@[simp] theorem problems_noteAll (events : List Event) :
    (noteAll events).problems = events.filterMap Event.problem? := rfl

/-- The problems of a second part follow those of a first part with a result. -/
theorem problems_bind_of_ok {first : Planning α} {result : α}
    (went : first.outcome = .ok result) (next : α → Planning β) :
    (first >>= next).problems = first.problems ++ (next result).problems := by
  rw [problems, journal_bind, went, List.filterMap_append]
  rfl

end Planning

/-! ### Lists that are the same but for their order -/

namespace Graph

variable {source : Source} {one other : List Component}

/-- The order of pairs with distinct first parts does not matter to looking them
up. -/
theorem lookup_eq_of_perm {β : Type} {pairs permuted : List (String × β)}
    (perm : permuted.Perm pairs) (distinct : (pairs.map Prod.fst).Nodup)
    (key : String) : permuted.lookup key = pairs.lookup key := by
  apply Option.ext
  intro value
  rw [lookup_eq_some_iff_mem distinct,
    lookup_eq_some_iff_mem ((perm.map Prod.fst).symm.nodup distinct),
    perm.mem_iff]

theorem sortedTags_eq_of_perm (perm : one.Perm other) :
    sortedTags one = sortedTags other := by
  have ordered (components : List Component) :
      (sortedTags components).Pairwise (· ≤ ·) := by
    simpa [sortedTags] using
      map_mergeSort_pairwise id (components.map (·.tag))
  refine List.Perm.eq_of_pairwise (fun _ _ _ _ => le_antisymm) (ordered one)
    (ordered other) ?_
  exact (List.mergeSort_perm _ _).trans
    ((perm.map _).trans (List.mergeSort_perm _ _).symm)

/-- Components with distinct tags have one order by tag. -/
theorem orderByTag_eq_of_perm (perm : one.Perm other)
    (distinct : (other.map (·.tag)).Nodup) :
    orderByTag one = orderByTag other := by
  have ordered (components : List Component) :
      (orderByTag components).Pairwise fun first second =>
        first.tag ≤ second.tag :=
    List.pairwise_map.mp (orderByTag_pairwise components)
  refine List.Perm.eq_of_pairwise ?_ (ordered one) (ordered other)
    ((orderByTag_perm one).trans (perm.trans (orderByTag_perm other).symm))
  intro first second among among' below above
  rw [(orderByTag_perm one).mem_iff, perm.mem_iff] at among
  rw [(orderByTag_perm other).mem_iff] at among'
  exact List.inj_on_of_nodup_map distinct among among' (le_antisymm below above)

theorem scanComponents_perm (source : Source) (perm : one.Perm other) :
    (scanComponents source one).Perm (scanComponents source other) := by
  simp only [scanComponents, sortedTags_eq_of_perm perm]
  exact perm.map _

/-- Only which tags are excluded matters, not their order. -/
theorem exclude_congr {tags tags' : List String}
    (same : ∀ tag, tag ∈ tags ↔ tag ∈ tags') (components : List Component) :
    exclude tags components = exclude tags' components := by
  simp only [exclude, same]

theorem unreadableTags_perm {scans scans' : List (Component × Scan)}
    (perm : scans.Perm scans') :
    (unreadableTags scans).Perm (unreadableTags scans') := by
  unfold unreadableTags
  exact perm.filterMap _

/-- The components that can be read are the same ones. -/
theorem exclude_unreadable_perm (source : Source) (perm : one.Perm other) :
    (exclude (unreadableTags (scanComponents source one)) one).Perm
      (exclude (unreadableTags (scanComponents source other)) other) := by
  have scans := scanComponents_perm source perm
  rw [exclude_congr fun tag => (unreadableTags_perm scans).mem_iff]
  exact (perm.filter _).map _

theorem lookup_mentionsOf_eq_of_perm (source : Source) (perm : one.Perm other)
    (distinct : (other.map (·.tag)).Nodup) (tag : String) :
    (mentionsOf (scanComponents source one)).lookup tag =
      (mentionsOf (scanComponents source other)).lookup tag := by
  apply lookup_eq_of_perm
  · unfold mentionsOf
    exact (scanComponents_perm source perm).filterMap _
  · rw [← tags_scanComponents source] at distinct
    exact distinct.sublist (tags_mentionsOf_sublist _)

/-! ### Building from components in another order -/

section

variable {mentions mentions' : Mentions}
variable {documentTags documentTags' : List String}
variable (same : ∀ tag name, name ∈ (mentions.lookup tag).getD [] ↔
  name ∈ (mentions'.lookup tag).getD [])
variable (roots : ∀ name, name ∈ documentTags ↔ name ∈ documentTags')

include same in
/-- Only which tags an output mentions matters to the node of its component. -/
theorem linkNode_congr (tags : List String) (component : Component) :
    linkNode tags mentions component = linkNode tags mentions' component := by
  have mentioned : ascending ((((mentions.lookup component.tag).getD
      []).filter (· ≠ component.tag)).filterMap fun name =>
        tags.idxOf? name) =
      ascending ((((mentions'.lookup component.tag).getD
      []).filter (· ≠ component.tag)).filterMap fun name =>
        tags.idxOf? name) := by
    apply ascending_congr
    intro id
    simp only [List.mem_filterMap, List.mem_filter, same]
  simp only [linkNode, mentioned]

include same roots

/-- Only which tags an output and the root document mention matters to
linking. -/
theorem link_congr (ordered : List Component) :
    link ordered mentions documentTags =
      link ordered mentions' documentTags' := by
  have documentRoots : ascending (documentTags.filterMap fun name =>
        (ordered.map (·.tag)).idxOf? name) =
      ascending (documentTags'.filterMap fun name =>
        (ordered.map (·.tag)).idxOf? name) := by
    apply ascending_congr
    intro id
    simp only [List.mem_filterMap, roots]
  simp only [link, documentRoots, funext (linkNode_congr same _)]

/-- Building a graph, whether it succeeds and what is reported on the way, does
not depend on the order of the components, nor on the order or repetition of what
the outputs and the root document mention. -/
theorem build_eq_of_perm (perm : one.Perm other) :
    build one mentions documentTags = build other mentions' documentTags' := by
  by_cases distinct : (other.map (·.tag)).Nodup
  · simp only [build, orderByTag_eq_of_perm perm distinct,
      link_congr same roots]
  · -- Components with one tag may stand in either order, their tags in one only.
    have tags : (orderByTag one).map (·.tag) = (orderByTag other).map (·.tag) := by
      apply List.Perm.eq_of_pairwise (fun _ _ _ _ => le_antisymm)
        (orderByTag_pairwise one) (orderByTag_pairwise other)
      exact ((orderByTag_perm one).trans
        (perm.trans (orderByTag_perm other).symm)).map _
    cases repeated : repeatedTag? ((orderByTag other).map (·.tag)) with
    | none => exact absurd (repeatedTag?_orderByTag.mp repeated) distinct
    | some tag => simp only [build, tags, repeated]

end

/-- The graph read from sources does not depend on the order of components. -/
theorem sourceGraph_eq_of_perm (source : Source) (perm : one.Perm other)
    (distinct : (other.map (·.tag)).Nodup) (document? : Option Path) :
    sourceGraph source one document? = sourceGraph source other document? := by
  have ordered : readableComponents source one =
      readableComponents source other :=
    orderByTag_eq_of_perm (exclude_unreadable_perm source perm)
      (nodup_exclude distinct _)
  rw [sourceGraph, sourceGraph, ordered, sortedTags_eq_of_perm perm]
  apply link_congr _ fun _ => Iff.rfl
  intro tag name
  rw [lookup_mentionsOf_eq_of_perm source perm distinct]

/-- What is reported when sources are read: the outputs that cannot be read, in
the order of the components, then the root document, and then what building the
graph reports. -/
theorem problems_ofSources {components : List Component}
    (distinct : (components.map (·.tag)).Nodup) (document? : Option Path) :
    (ofSources source false components document?).problems =
      (scanComponents source components).filterMap
          (fun scan => (scanEvent scan).problem?) ++
        ((scanDocument source (sortedTags components) document?).problems ++
          (build
            (exclude (unreadableTags (scanComponents source components))
              components)
            (mentionsOf (scanComponents source components))
            (documentTags source (sortedTags components)
              document?)).problems) := by
  have cycles (graph : Graph) :
      (graph.cycles.map fun cycle =>
        Event.cycleFound (graph.tagsOf cycle)).filterMap Event.problem? =
        [] := by
    simp [List.filterMap_map, Event.problem?, Function.comp_def]
  rw [ofSources, Planning.problems_bind_of_ok rfl, if_neg Bool.false_ne_true]
  dsimp only
  rw [Planning.problems_bind_of_ok rfl,
    Planning.problems_bind_of_ok (outcome_scanDocument _ _ _),
    Planning.problems_bind_of_ok rfl,
    Planning.problems_bind_of_ok
      (outcome_build _ _ (nodup_exclude distinct _)),
    Planning.problems_bind_of_ok rfl]
  simp only [Planning.problems_note, Planning.problems_noteAll, cycles,
    List.filterMap_map]
  simp [Event.problem?, Function.comp_def]

end Graph

/-! ### Plans of components in another order -/

namespace Project

variable {project : Project} {source : Source}

/-- The problems of a project with valid tags: those found in its sources, and
those that grouping its components reports. -/
theorem problems_planning (valid : project.HasValidTags) (source : Source) :
    (project.planning source false).problems =
      (Graph.ofSources source false
          (project.components.map Component.normalize)
          project.document?).problems ++
        ((project.graph source).planEntries project.bundles false).problems := by
  rw [planning, Planning.problems_bind_of_ok rfl,
    Planning.problems_bind_of_ok valid.normalizeAll,
    Planning.problems_bind_of_ok
      (Graph.outcome_ofSources valid.distinct project.document?)]
  rfl

/-- A plan is what planning ends with, and tells the problems found on the
way. -/
theorem planning_of_plan {aborted : Bool} {plan : Plan}
    (planned : project.plan source aborted = .ok plan) :
    (project.planning source aborted).outcome = .ok plan.entries ∧
      (project.planning source aborted).problems = plan.problems := by
  cases went : (project.planning source aborted).outcome with
  | error fault =>
      rw [plan_eq_of_error went] at planned
      cases planned
  | ok entries =>
      rw [plan_eq_of_ok went] at planned
      cases planned
      exact ⟨rfl, rfl⟩

variable {permuted : List Component}

/-- Tags stay valid in another order. -/
theorem hasValidTags_of_perm {other : Project}
    (perm : other.components.Perm project.components)
    (valid : project.HasValidTags) : other.HasValidTags := by
  have tags : (Component.normalTags other.components).Perm
      (Component.normalTags project.components) := perm.map _
  exact ⟨mt tags.mem_iff.mp valid.1, tags.symm.nodup valid.2⟩

theorem graph_eq_of_perm (perm : permuted.Perm project.components)
    (valid : project.HasValidTags) (source : Source) :
    graph { project with components := permuted } source =
      project.graph source :=
  Graph.sourceGraph_eq_of_perm source (perm.map _) valid.distinct
    project.document?

/-- The problems of a project whose components are declared in another order are
the same ones, in some order. -/
theorem problems_perm (perm : permuted.Perm project.components)
    (valid : project.HasValidTags) (source : Source) :
    (planning { project with components := permuted } source
        false).problems.Perm (project.planning source false).problems := by
  have normal := perm.map Component.normalize
  have valid' : HasValidTags { project with components := permuted } :=
    hasValidTags_of_perm perm valid
  have mentions (tag name : String) :
      name ∈ ((Graph.mentionsOf (Graph.scanComponents source
          (permuted.map Component.normalize))).lookup tag).getD [] ↔
        name ∈ ((Graph.mentionsOf (Graph.scanComponents source
          (project.components.map Component.normalize))).lookup tag).getD
            [] := by
    rw [Graph.lookup_mentionsOf_eq_of_perm source normal valid.distinct]
  rw [problems_planning valid', problems_planning valid,
    graph_eq_of_perm perm valid]
  apply List.Perm.append_right
  rw [Graph.problems_ofSources valid'.distinct,
    Graph.problems_ofSources valid.distinct]
  dsimp only
  rw [Graph.sortedTags_eq_of_perm normal,
    Graph.build_eq_of_perm mentions (fun _ => Iff.rfl)
      (Graph.exclude_unreadable_perm source normal)]
  apply List.Perm.append_right
  exact (Graph.scanComponents_perm source normal).filterMap _

/-- Projects with one graph and the same bundles have the same entry modules. -/
theorem entries_eq_of_graph_eq {other : Project} {aborted aborted' : Bool}
    {plan plan' : Plan} (planned : project.plan source aborted = .ok plan)
    (planned' : other.plan source aborted' = .ok plan')
    (graphs : other.graph source = project.graph source)
    (bundles : other.bundles = project.bundles) :
    plan'.entries = plan.entries := by
  obtain ⟨run⟩ := (valid_of_plan planned).2.exists_run source
  rw [entries_of_plan planned run]
  revert run
  rw [← graphs, ← bundles]
  intro run
  exact entries_of_plan planned' run

end Project

/-- A project whose components are declared in another order has a plan exactly
when the project has one.  The two plans have the same entry modules and, but for
their order, the same problems. -/
theorem plan_perm {project : Project} {permuted : List Component}
    (perm : permuted.Perm project.components) (source : Source)
    (aborted : Bool) :
    ((∃ plan, Project.plan { project with components := permuted } source
        aborted = .ok plan) ↔
      ∃ plan, project.plan source aborted = .ok plan) ∧
    ∀ plan other, project.plan source aborted = .ok plan →
      Project.plan { project with components := permuted } source aborted =
        .ok other →
      other.entries = plan.entries ∧ other.problems.Perm plan.problems := by
  constructor
  · rw [Project.exists_plan_iff, Project.exists_plan_iff]
    refine and_congr_right fun _ => ⟨fun valid => ?_,
      Project.hasValidTags_of_perm perm⟩
    exact Project.hasValidTags_of_perm perm.symm valid
  · intro plan other planned planned'
    obtain ⟨rfl, valid⟩ := Project.valid_of_plan planned
    have graphs := Project.graph_eq_of_perm perm valid source
    constructor
    · exact Project.entries_eq_of_graph_eq planned planned' graphs rfl
    · rw [← (Project.planning_of_plan planned).2,
        ← (Project.planning_of_plan planned').2]
      exact Project.problems_perm perm valid source

/-- A banner of the shop, whose output is missing. -/
def shopBanner : Component :=
  { tag := "shop-banner", source := ⟨"banner.js"⟩ }

/-- A footer of the shop, whose output is missing too. -/
def shopFooter : Component :=
  { tag := "shop-footer", source := ⟨"footer.js"⟩ }

/-- The shop declared backwards has a plan with the same entry modules, although
the two missing outputs are reported in another order. -/
theorem plan_perm_shop :
    [shopFooter, shopBanner, shopApp].Perm [shopApp, shopBanner, shopFooter] ∧
    ∃ plan other,
      Project.plan { components := [shopApp, shopBanner, shopFooter] }
        shopSource false = .ok plan ∧
      Project.plan { components := [shopFooter, shopBanner, shopApp] }
        shopSource false = .ok other ∧
      other.entries = plan.entries ∧ other.problems.Perm plan.problems := by
  let shop : Project := { components := [shopApp, shopBanner, shopFooter] }
  have perm : [shopFooter, shopBanner, shopApp].Perm shop.components := by
    decide
  have valid : shop.HasValidTags := by
    have tags : Component.normalTags shop.components =
        ["shop-app", "shop-banner", "shop-footer"] := by decide +kernel
    rw [Project.HasValidTags, tags]
    decide
  obtain ⟨exists_iff, same⟩ := plan_perm perm shopSource false
  obtain ⟨plan, planned⟩ := Project.exists_plan_iff.mpr
    ⟨(rfl : false = false), valid⟩
  obtain ⟨other, planned'⟩ := exists_iff.mpr ⟨plan, planned⟩
  exact ⟨perm, plan, other, planned, planned',
    same plan other planned planned'⟩

end CodeSplit
