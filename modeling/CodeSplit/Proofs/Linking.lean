/-
Module: CodeSplit.Proofs.Linking
Purpose: when a graph can be built, and what its numbers, edges and roots are in
  terms of tags.
Main exports:
  Graph.outcome_build, Graph.wellFormed_of_build,
  Graph.mem_dependencies_link, Graph.mem_documentRoots_link, Graph.shopGraph
-/
import CodeSplit.Graph.Basic
import CodeSplit.Proofs.Ascending
import CodeSplit.Proofs.Reach

namespace CodeSplit.Graph

/-! ### Components in the order of their tags -/

theorem orderByTag_perm (components : List Component) :
    (orderByTag components).Perm components :=
  List.mergeSort_perm _ _

/-- Ordered components stand in the order of their tags. -/
theorem orderByTag_pairwise (components : List Component) :
    ((orderByTag components).map (·.tag)).Pairwise (· ≤ ·) :=
  map_mergeSort_pairwise Component.tag components

/-- Tags in order are strictly ascending where no tag stands twice in a row. -/
theorem pairwise_of_repeatedTag?_none {tags : List String}
    (ordered : tags.Pairwise (· ≤ ·)) (none : repeatedTag? tags = none) :
    tags.Pairwise (· < ·) := by
  induction tags with
  | nil => exact .nil
  | cons one rest ih =>
      cases rest with
      | nil => exact List.pairwise_singleton _ _
      | cons other rest =>
          obtain ⟨below, ordered⟩ := List.pairwise_cons.mp ordered
          rw [repeatedTag?] at none
          split at none
          · cases none
          · rename_i different
            have above := ih ordered none
            have first := lt_of_le_of_ne (below other List.mem_cons_self)
              different
            refine List.pairwise_cons.mpr ⟨fun tag found => ?_, above⟩
            rcases List.mem_cons.mp found with rfl | found
            · exact first
            · exact lt_trans first ((List.pairwise_cons.mp above).1 tag found)

/-- A tag that stands twice in a row is repeated. -/
theorem not_nodup_of_repeatedTag?_some {tags : List String} {tag : String}
    (some_tag : repeatedTag? tags = some tag) : ¬ tags.Nodup := by
  intro distinct
  induction tags with
  | nil => cases some_tag
  | cons one rest ih =>
      obtain ⟨fresh, distinct⟩ := List.nodup_cons.mp distinct
      cases rest with
      | nil => cases some_tag
      | cons other rest =>
          rw [repeatedTag?] at some_tag
          split at some_tag
          · rename_i same
            exact fresh (same ▸ List.mem_cons_self)
          · exact ih some_tag distinct

/-- Components in order repeat no tag where they repeat none. -/
theorem repeatedTag?_orderByTag {components : List Component} :
    repeatedTag? ((orderByTag components).map (·.tag)) = none ↔
      (components.map (·.tag)).Nodup := by
  have perm := (orderByTag_perm components).map (·.tag)
  rw [← perm.nodup_iff]
  constructor
  · intro none
    exact (pairwise_of_repeatedTag?_none (orderByTag_pairwise components)
      none).imp ne_of_lt
  · intro distinct
    cases repeated : repeatedTag? ((orderByTag components).map (·.tag)) with
    | none => rfl
    | some tag =>
        exact absurd distinct (not_nodup_of_repeatedTag?_some repeated)

/-! ### When a graph can be built -/

/-- A graph can be built exactly from components with distinct tags. -/
theorem outcome_build {components : List Component} (mentions : Mentions)
    (documentTags : List String)
    (distinct : (components.map (·.tag)).Nodup) :
    (build components mentions documentTags).outcome =
      .ok (link (orderByTag components) mentions documentTags) := by
  rw [build]
  simp only [repeatedTag?_orderByTag.mpr distinct]
  rw [Planning.outcome_bind_of_ok rfl]
  exact Planning.outcome_bind_of_ok rfl _

/-- Components that stand in the order of their tags are put in it as they are. -/
theorem orderByTag_eq_self {components : List Component}
    (ordered : components.Pairwise fun one other => one.tag ≤ other.tag) :
    orderByTag components = components :=
  List.mergeSort_of_pairwise (ordered.imp decide_eq_true)

/-- Components in the strict order of their tags are linked as they stand. -/
theorem outcome_build_of_ascending {components : List Component}
    (mentions : Mentions) (documentTags : List String)
    (ascends : components.Pairwise fun one other => one.tag < other.tag) :
    (build components mentions documentTags).outcome =
      .ok (link components mentions documentTags) := by
  have distinct : (components.map (·.tag)).Nodup :=
    List.pairwise_map.mpr (ascends.imp ne_of_lt)
  rw [outcome_build mentions documentTags distinct,
    orderByTag_eq_self (ascends.imp le_of_lt)]

theorem nodup_of_build {graph : Graph} {components : List Component}
    {mentions : Mentions} {documentTags : List String}
    (built : (build components mentions documentTags).outcome = .ok graph) :
    (components.map (·.tag)).Nodup := by
  rw [build] at built
  cases repeated : repeatedTag? ((orderByTag components).map (·.tag)) with
  | none => exact repeatedTag?_orderByTag.mp repeated
  | some tag =>
      simp only [repeated] at built
      cases built

/-! ### What is linked -/

section

variable {ordered : List Component} {mentions : Mentions}
variable {documentTags : List String}

@[simp] theorem tags_link :
    (link ordered mentions documentTags).tags = ordered.map (·.tag) := by
  simp [link, tags, linkNode, Function.comp_def]

@[simp] theorem size_link :
    (link ordered mentions documentTags).size = ordered.length := by
  simp [link, size]

theorem component?_link (id : ComponentId) :
    (link ordered mentions documentTags).component? id = ordered[id]? := by
  simp [link, component?, linkNode, Function.comp_def]

theorem tag_link (id : ComponentId) :
    (link ordered mentions documentTags).tag id =
      (ordered[id]?.map (·.tag)).getD "" := by
  rw [tag, component?_link]

/-- In a list of distinct tags, the first position of a tag is its only one. -/
theorem idxOf?_eq_some_iff_of_nodup {tags : List String}
    (distinct : tags.Nodup) {tag : String} {id : Nat} :
    tags.idxOf? tag = some id ↔ tags[id]? = some tag := by
  rw [List.idxOf?_eq_some_iff, List.getElem?_eq_some_iff]
  constructor
  · intro given
    obtain ⟨inRange, same, _⟩ := given
    exact ⟨inRange, same⟩
  · intro given
    obtain ⟨inRange, same⟩ := given
    refine ⟨inRange, same, fun earlier before repeated => ?_⟩
    have := (List.getElem_inj distinct).mp (repeated.trans same.symm)
    omega

/-- The positions of tags in a list, of those that it holds. -/
theorem mem_filterMap_idxOf? {tags names : List String}
    (distinct : tags.Nodup) {id : Nat} :
    id ∈ names.filterMap (fun name => tags.idxOf? name) ↔
      ∃ name ∈ names, tags[id]? = some name := by
  simp only [List.mem_filterMap, idxOf?_eq_some_iff_of_nodup distinct]

/-- A component needs those whose tags its output mentions or it declares,
without itself. -/
theorem mem_dependencies_link (distinct : (ordered.map (·.tag)).Nodup)
    {id other : ComponentId} :
    other ∈ (link ordered mentions documentTags).dependencies id ↔
      ∃ component needed, ordered[id]? = some component ∧
        ordered[other]? = some needed ∧ needed.tag ≠ component.tag ∧
        (needed.tag ∈ (mentions.lookup component.tag).getD [] ∨
          needed.tag ∈ component.dependencies) := by
  cases found : ordered[id]? with
  | none => simp [dependencies, link, found]
  | some component =>
      simp only [dependencies, link, linkNode, List.getElem?_map, found,
        Option.map_some, Option.getD_some, mem_ascending, List.mem_append,
        mem_filterMap_idxOf? distinct, List.mem_filter, decide_eq_true_eq,
        Option.map_eq_some_iff, Option.some.injEq]
      constructor
      · rintro (⟨name, ⟨among, apart⟩, needed, at_other, rfl⟩ |
          ⟨name, ⟨among, apart⟩, needed, at_other, rfl⟩)
        · exact ⟨component, needed, rfl, at_other, apart, Or.inl among⟩
        · exact ⟨component, needed, rfl, at_other, apart, Or.inr among⟩
      · intro given
        obtain ⟨_, needed, rfl, at_other, apart, mentioned | declared⟩ := given
        · exact Or.inl ⟨_, ⟨mentioned, apart⟩, needed, at_other, rfl⟩
        · exact Or.inr ⟨_, ⟨declared, apart⟩, needed, at_other, rfl⟩

/-- The root document mentions the components that have one of its tags. -/
theorem mem_documentRoots_link (distinct : (ordered.map (·.tag)).Nodup)
    {id : ComponentId} :
    id ∈ (link ordered mentions documentTags).documentRoots ↔
      ∃ component, ordered[id]? = some component ∧
        component.tag ∈ documentTags := by
  simp only [link, mem_ascending, mem_filterMap_idxOf? distinct,
    List.getElem?_map, Option.map_eq_some_iff]
  constructor
  · intro given
    obtain ⟨_, among, component, found, rfl⟩ := given
    exact ⟨component, found, among⟩
  · intro given
    obtain ⟨component, found, among⟩ := given
    exact ⟨component.tag, among, component, found, rfl⟩

/-- A graph of components that stand in the strict order of their tags is
well-formed. -/
theorem wellFormed_link
    (ascends : (ordered.map (·.tag)).Pairwise (· < ·)) :
    (link ordered mentions documentTags).WellFormed := by
  have distinct : (ordered.map (·.tag)).Nodup := ascends.imp ne_of_lt
  refine ⟨by rwa [tags_link], ?_, ?_, ?_, ?_, ascending_pairwise _⟩
  · intro id other needs
    obtain ⟨_, _, _, at_other, _⟩ := (mem_dependencies_link distinct).mp needs
    rw [size_link]
    exact (List.getElem?_eq_some_iff.mp at_other).1
  · intro id other needs same
    subst same
    obtain ⟨_, _, at_id, at_other, apart, _⟩ :=
      (mem_dependencies_link distinct).mp needs
    rw [at_id] at at_other
    cases at_other
    exact apart rfl
  · intro id
    cases found : ordered[id]? with
    | none => simp [dependencies, link, found]
    | some component =>
        simpa [dependencies, link, linkNode, found] using ascending_pairwise _
  · intro id among
    obtain ⟨_, found, _⟩ := (mem_documentRoots_link distinct).mp among
    rw [size_link]
    exact (List.getElem?_eq_some_iff.mp found).1

end

/-- Every graph that is built is well-formed. -/
theorem wellFormed_of_build {graph : Graph} {components : List Component}
    {mentions : Mentions} {documentTags : List String}
    (built : (build components mentions documentTags).outcome = .ok graph) :
    graph.WellFormed := by
  have distinct := nodup_of_build built
  rw [outcome_build mentions documentTags distinct] at built
  cases built
  exact wellFormed_link (pairwise_of_repeatedTag?_none
    (orderByTag_pairwise components) (repeatedTag?_orderByTag.mpr distinct))

/-! ### A small shop -/

/-- Components of a shop, in the order of their tags: the application with a
card, a list with its rows, and an icon from outside that most of them need. -/
def shopComponents : List Component :=
  [{ tag := "shop-app", source := ⟨"app.js"⟩, dependencies := ["shop-card"] },
   { tag := "shop-card", source := ⟨"card.js"⟩, dependencies := ["shop-icon"] },
   { tag := "shop-icon", source := ⟨"icon.js"⟩, isExternal := true },
   { tag := "shop-list", source := ⟨"list.js"⟩,
     dependencies := ["shop-icon", "shop-row"] },
   { tag := "shop-row", source := ⟨"row.js"⟩, dependencies := ["shop-icon"] }]

/-- The graph of the shop, whose root document mentions the given tags. -/
def shopGraph (documentTags : List String) : Graph :=
  link shopComponents [] documentTags

theorem outcome_build_shop (documentTags : List String) :
    (build shopComponents [] documentTags).outcome =
      .ok (shopGraph documentTags) :=
  outcome_build_of_ascending [] documentTags (by decide)

end CodeSplit.Graph
