/-
Module: CodeSplit.Proofs.Representation
Purpose: what the components, edges and roots of a project's graph mean in terms
  of tags, sources and declarations.
Main exports:
  Project.Knows, Project.Needs, Project.Reaches, Graph.Represents,
  Project.HasValidTags.represents, Graph.Represents.reaches_iff
-/
import CodeSplit.Proofs.Entries
import CodeSplit.Proofs.Projects

namespace CodeSplit

/-! ### Tags and what they need -/

/-- The compiled output of the component can be read. -/
def Component.Readable (source : Source) (component : Component) : Prop :=
  ∃ text, source component.source = .ok text

@[simp] theorem Component.readable_normalize {source : Source}
    {component : Component} :
    component.normalize.Readable source ↔ component.Readable source := by
  rw [Readable, Readable, source_normalize]

namespace Project

variable (project : Project) (source : Source)

/-- The tag is that of a component whose compiled output can be read. -/
def Knows (tag : String) : Prop :=
  ∃ component ∈ project.components, component.Readable source ∧
    normalizeTag component.tag = tag

/-- The component with the first tag needs the one with the second: both can be
read, and the output of the first mentions the second or its record declares
it. -/
def Needs (tag other : String) : Prop :=
  project.Knows source other ∧ other ≠ tag ∧
    ∃ component ∈ project.components, normalizeTag component.tag = tag ∧
      ∃ text, source component.source = .ok text ∧
        (Markup.mentions text other = true ∨
          other ∈ component.dependencies.map normalizeTag)

/-- A tag can be reached from another along zero or more needs. -/
def Reaches : String → String → Prop :=
  Relation.ReflTransGen (project.Needs source)

/-- The root document can be read and mentions the tag, which is known. -/
def Mentioned (tag : String) : Prop :=
  project.Knows source tag ∧ ∃ path text, project.document? = some path ∧
    source path = .ok text ∧ Markup.mentions text tag = true

end Project

/-- The numbers of a graph stand for the components of a project that can be
read, and its edges and roots for what is found in their sources. -/
structure Graph.Represents (graph : Graph) (project : Project)
    (source : Source) : Prop where
  formed : graph.WellFormed
  exists_component : ∀ id < graph.size, ∃ component ∈ project.components,
    component.Readable source ∧ graph.tag id = normalizeTag component.tag ∧
      graph.isExternal id = component.isExternal
  exists_number : ∀ component ∈ project.components,
    component.Readable source → ∃ id < graph.size,
      graph.tag id = normalizeTag component.tag ∧
        graph.isExternal id = component.isExternal
  edges : ∀ id < graph.size, ∀ other, other ∈ graph.dependencies id ↔
    other < graph.size ∧
      project.Needs source (graph.tag id) (graph.tag other)
  roots : ∀ id, id ∈ graph.documentRoots ↔
    id < graph.size ∧ project.Mentioned source (graph.tag id)

/-! ### The graph of a project represents it -/

namespace Graph

variable {source : Source} {components : List Component}

/-- Of components with distinct tags, those have unreadable ones that cannot be
read. -/
theorem tag_mem_unreadableTags_iff (distinct : (components.map (·.tag)).Nodup)
    {component : Component} (among : component ∈ components) :
    component.tag ∈ unreadableTags (scanComponents source components) ↔
      ¬ component.Readable source := by
  rw [mem_unreadableTags]
  constructor
  · intro given readable
    obtain ⟨other, other_among, same, cause, unread⟩ := given
    obtain ⟨text, read⟩ := readable
    obtain rfl := List.inj_on_of_nodup_map distinct other_among among same
    rw [unread] at read
    cases read
  · intro unreadable
    cases read : source component.source with
    | error cause => exact ⟨component, among, rfl, cause, read⟩
    | ok text => exact absurd ⟨text, read⟩ unreadable

/-- The components of the graph are those that can be read, without unreadable
ones among what they declare. -/
theorem mem_readableComponents (distinct : (components.map (·.tag)).Nodup)
    {component : Component} :
    component ∈ readableComponents source components ↔
      ∃ old ∈ components, old.Readable source ∧
        { old with
          dependencies := old.dependencies.filter
            (· ∉ unreadableTags (scanComponents source components)) } =
          component := by
  rw [readableComponents, (orderByTag_perm _).mem_iff, mem_exclude]
  refine exists_congr fun old => and_congr_right fun among => ?_
  rw [tag_mem_unreadableTags_iff distinct among, not_not]

theorem nodup_tags_readableComponents (source : Source)
    (distinct : (components.map (·.tag)).Nodup) :
    ((readableComponents source components).map (·.tag)).Nodup :=
  ((orderByTag_perm _).map (·.tag)).symm.nodup (nodup_exclude distinct _)

variable {document? : Option Path}

/-- A tag of the graph is that of a component that can be read. -/
theorem exists_of_mem_tags_sourceGraph
    (distinct : (components.map (·.tag)).Nodup) {tag : String}
    (found : tag ∈ (sourceGraph source components document?).tags) :
    ∃ own ∈ components, own.Readable source ∧ own.tag = tag := by
  rw [sourceGraph, tags_link] at found
  obtain ⟨component, among, rfl⟩ := List.mem_map.mp found
  obtain ⟨own, own_among, readable, rfl⟩ :=
    (mem_readableComponents distinct).mp among
  exact ⟨own, own_among, readable, rfl⟩

/-- The roots of the graph are what the root document mentions of it. -/
theorem mem_documentRoots_sourceGraph
    (distinct : (components.map (·.tag)).Nodup) {id : ComponentId} :
    id ∈ (sourceGraph source components document?).documentRoots ↔
      id < (sourceGraph source components document?).size ∧
        ∃ path text, document? = some path ∧ source path = .ok text ∧
          Markup.mentions text
            ((sourceGraph source components document?).tag id) = true := by
  have roots : id ∈ (sourceGraph source components document?).documentRoots ↔
      ∃ tag, (sourceGraph source components document?).tags[id]? = some tag ∧
        tag ∈ documentTags source (sortedTags components) document? := by
    simp only [sourceGraph, mem_documentRoots_link
      (nodup_tags_readableComponents source distinct), tags_link,
      List.getElem?_map, Option.map_eq_some_iff]
    grind
  simp only [roots, getElem?_tags_eq_some_iff, mem_documentTags]
  constructor
  · intro given
    obtain ⟨_, ⟨known, rfl⟩, _, mentioned⟩ := given
    exact ⟨known, mentioned⟩
  · intro given
    obtain ⟨known, mentioned⟩ := given
    obtain ⟨own, among, _, same⟩ := exists_of_mem_tags_sourceGraph distinct
      (List.mem_of_getElem? (getElem?_tags known))
    refine ⟨_, ⟨known, rfl⟩, ?_, mentioned⟩
    rw [← same, mem_sortedTags]
    exact List.mem_map_of_mem among

end Graph

namespace Project

variable {project : Project} {source : Source}

/-- The component as it stands in the graph: normal, and without unreadable ones
among what it declares. -/
def kept (project : Project) (source : Source) (component : Component) :
    Component :=
  { component.normalize with
    dependencies := component.normalize.dependencies.filter
      (· ∉ Graph.unreadableTags (Graph.scanComponents source
        (project.components.map Component.normalize))) }

@[simp] theorem tag_kept (component : Component) :
    (project.kept source component).tag = normalizeTag component.tag := rfl

@[simp] theorem isExternal_kept (component : Component) :
    (project.kept source component).isExternal = component.isExternal := by
  rw [kept, Component.isExternal_normalize]

/-- The components of the graph, in order. -/
def ordered (project : Project) (source : Source) : List Component :=
  Graph.readableComponents source (project.components.map Component.normalize)

theorem HasValidTags.mem_ordered (valid : project.HasValidTags)
    {component : Component} :
    component ∈ project.ordered source ↔
      ∃ own ∈ project.components, own.Readable source ∧
        project.kept source own = component := by
  rw [ordered, Graph.mem_readableComponents valid.distinct]
  constructor
  · intro given
    obtain ⟨_, among, readable, rfl⟩ := given
    obtain ⟨own, own_among, rfl⟩ := List.mem_map.mp among
    rw [Component.readable_normalize] at readable
    exact ⟨own, own_among, readable, by rw [kept]⟩
  · intro given
    obtain ⟨own, among, readable, rfl⟩ := given
    rw [← Component.readable_normalize] at readable
    exact ⟨own.normalize, List.mem_map_of_mem among, readable, by rw [kept]⟩

/-- A component of the project is known by its tag. -/
theorem HasValidTags.eq_of_tag_eq (valid : project.HasValidTags)
    {one other : Component} (among : one ∈ project.components)
    (among' : other ∈ project.components)
    (same : normalizeTag one.tag = normalizeTag other.tag) : one = other :=
  List.inj_on_of_nodup_map valid.2 among among' same

/-- The tag of a component that can be read is not an unreadable one. -/
theorem HasValidTags.not_mem_unreadableTags (valid : project.HasValidTags)
    {component : Component} (among : component ∈ project.components)
    (readable : component.Readable source) :
    normalizeTag component.tag ∉ Graph.unreadableTags
      (Graph.scanComponents source
        (project.components.map Component.normalize)) := by
  intro unreadable
  exact (Graph.tag_mem_unreadableTags_iff valid.distinct
    (List.mem_map_of_mem among)).mp unreadable
      (Component.readable_normalize.mpr readable)

/-- The graph links a component to what its output mentions or its record
declares. -/
theorem HasValidTags.linked_iff (valid : project.HasValidTags)
    {one other : Component} (among : one ∈ project.components) {text : String}
    (read : source one.source = .ok text)
    (among' : other ∈ project.components) (readable : other.Readable source)
    (apart : normalizeTag other.tag ≠ normalizeTag one.tag) :
    (normalizeTag other.tag ∈ ((Graph.mentionsOf (Graph.scanComponents source
          (project.components.map Component.normalize))).lookup
            (normalizeTag one.tag)).getD [] ∨
        normalizeTag other.tag ∈ (project.kept source one).dependencies) ↔
      Markup.mentions text (normalizeTag other.tag) = true ∨
        normalizeTag other.tag ∈ one.dependencies.map normalizeTag := by
  rw [← Component.source_normalize] at read
  have some_tag : normalizeTag other.tag ≠ "" := by
    intro empty
    exact valid.1 (empty ▸ List.mem_map_of_mem among')
  have candidate : normalizeTag other.tag ∈
      (project.components.map Component.normalize).map (·.tag) := by
    rw [Component.map_tag_normalize]
    exact List.mem_map_of_mem among'
  apply or_congr
  · exact (Graph.mem_lookup_mentionsOf valid.distinct
      (List.mem_map_of_mem among) read candidate).trans (and_iff_right apart)
  · rw [kept, List.mem_filter, decide_eq_true_eq,
      and_iff_left (valid.not_mem_unreadableTags among' readable),
      Component.normalize, List.mem_filter, decide_eq_true_eq,
      and_iff_left some_tag]

theorem HasValidTags.distinct_ordered (valid : project.HasValidTags)
    (source : Source) : ((project.ordered source).map (·.tag)).Nodup :=
  Graph.nodup_tags_readableComponents source valid.distinct

theorem size_graph : (project.graph source).size =
    (project.ordered source).length :=
  Graph.size_link

/-- A number of the graph stands for a component that can be read. -/
theorem HasValidTags.exists_of_lt (valid : project.HasValidTags)
    {id : ComponentId} (known : id < (project.graph source).size) :
    ∃ own ∈ project.components, own.Readable source ∧
      (project.ordered source)[id]? = some (project.kept source own) := by
  rw [size_graph] at known
  obtain ⟨own, among, readable, same⟩ :=
    valid.mem_ordered.mp (List.getElem_mem known)
  exact ⟨own, among, readable, by rw [same, List.getElem?_eq_getElem known]⟩

/-- A component that can be read has a number in the graph. -/
theorem HasValidTags.exists_lt_of_readable (valid : project.HasValidTags)
    {own : Component} (among : own ∈ project.components)
    (readable : own.Readable source) :
    ∃ id < (project.graph source).size,
      (project.ordered source)[id]? = some (project.kept source own) := by
  obtain ⟨id, at_id⟩ := List.mem_iff_getElem?.mp
    (valid.mem_ordered.mpr ⟨own, among, readable, rfl⟩)
  refine ⟨id, ?_, at_id⟩
  rw [size_graph]
  exact (List.getElem?_eq_some_iff.mp at_id).1

theorem tag_graph {id : ComponentId} {own : Component}
    (at_id : (project.ordered source)[id]? = some (project.kept source own)) :
    (project.graph source).tag id = normalizeTag own.tag := by
  rw [graph, Graph.sourceGraph, Graph.tag_link]
  show ((project.ordered source)[id]?.map (·.tag)).getD "" = _
  rw [at_id, Option.map_some, Option.getD_some, tag_kept]

theorem isExternal_graph {id : ComponentId} {own : Component}
    (at_id : (project.ordered source)[id]? = some (project.kept source own)) :
    (project.graph source).isExternal id = own.isExternal := by
  rw [graph, Graph.sourceGraph, Graph.isExternal, Graph.component?_link]
  show ((project.ordered source)[id]?.map (·.isExternal)).getD false = _
  rw [at_id, Option.map_some, Option.getD_some, isExternal_kept]

/-- The edges of the graph are the needs between tags. -/
theorem HasValidTags.mem_dependencies (valid : project.HasValidTags)
    {id other : ComponentId} (known : id < (project.graph source).size) :
    other ∈ (project.graph source).dependencies id ↔
      other < (project.graph source).size ∧
        project.Needs source ((project.graph source).tag id)
          ((project.graph source).tag other) := by
  obtain ⟨one, among, ⟨text, read⟩, at_id⟩ := valid.exists_of_lt known
  apply (Graph.mem_dependencies_link (valid.distinct_ordered source)).trans
  rw [tag_graph at_id]
  constructor
  · intro given
    obtain ⟨_, needed, at_id', at_other, apart, linked⟩ := given
    have known' : other < (project.graph source).size := by
      rw [size_graph]
      exact (List.getElem?_eq_some_iff.mp at_other).1
    obtain ⟨two, among', readable, at_other'⟩ := valid.exists_of_lt known'
    obtain rfl := Option.some.inj (at_id'.symm.trans at_id)
    obtain rfl := Option.some.inj (at_other.symm.trans at_other')
    rw [tag_kept, tag_kept] at apart
    rw [tag_kept, tag_kept,
      valid.linked_iff among read among' readable apart] at linked
    rw [tag_graph at_other']
    exact ⟨known', ⟨two, among', readable, rfl⟩, apart, one, among, rfl, text,
      read, linked⟩
  · intro given
    obtain ⟨known', _, apart, own, own_among, same, text', read', needs⟩ := given
    obtain ⟨two, among', readable, at_other⟩ := valid.exists_of_lt known'
    obtain rfl := valid.eq_of_tag_eq own_among among same
    obtain rfl := Except.ok.inj (read.symm.trans read')
    rw [tag_graph at_other] at apart needs
    refine ⟨_, _, at_id, at_other, apart, ?_⟩
    rwa [tag_kept, tag_kept,
      valid.linked_iff among read among' readable apart]

/-- The roots of the graph are the tags that the root document mentions. -/
theorem HasValidTags.mem_documentRoots (valid : project.HasValidTags)
    {id : ComponentId} :
    id ∈ (project.graph source).documentRoots ↔
      id < (project.graph source).size ∧
        project.Mentioned source ((project.graph source).tag id) := by
  apply (Graph.mem_documentRoots_sourceGraph valid.distinct).trans
  refine and_congr_right fun known => (and_iff_right ?_).symm
  obtain ⟨own, among, readable, at_id⟩ := valid.exists_of_lt known
  exact ⟨own, among, readable, (tag_graph at_id).symm⟩

/-- The graph of a project with valid tags represents it. -/
theorem HasValidTags.represents (valid : project.HasValidTags)
    (source : Source) : (project.graph source).Represents project source where
  formed := valid.wellFormed source
  exists_component id known := by
    obtain ⟨own, among, readable, at_id⟩ := valid.exists_of_lt known
    exact ⟨own, among, readable, tag_graph at_id, isExternal_graph at_id⟩
  exists_number own among readable := by
    obtain ⟨id, known, at_id⟩ := valid.exists_lt_of_readable among readable
    exact ⟨id, known, tag_graph at_id, isExternal_graph at_id⟩
  edges id known other := valid.mem_dependencies known
  roots id := valid.mem_documentRoots

end Project

/-! ### Reaching in the graph and in the project -/

namespace Graph.Represents

variable {graph : Graph} {project : Project} {source : Source}
variable {id other : ComponentId}

/-- A known tag is that of a number. -/
theorem exists_of_knows (represents : graph.Represents project source)
    {tag : String} (knows : project.Knows source tag) :
    ∃ id < graph.size, graph.tag id = tag := by
  obtain ⟨component, among, readable, rfl⟩ := knows
  obtain ⟨id, known, same, _⟩ :=
    represents.exists_number component among readable
  exact ⟨id, known, same⟩

theorem knows (represents : graph.Represents project source)
    (known : id < graph.size) : project.Knows source (graph.tag id) := by
  obtain ⟨component, among, readable, same, _⟩ :=
    represents.exists_component id known
  exact ⟨component, among, readable, same.symm⟩

/-- What can be reached from a number by its tag can be reached in the graph. -/
theorem exists_reaches (represents : graph.Represents project source)
    (known : id < graph.size) {tag : String}
    (reaches : project.Reaches source (graph.tag id) tag) :
    ∃ other < graph.size, graph.tag other = tag ∧ graph.Reaches id other := by
  induction reaches with
  | refl => exact ⟨id, known, rfl, .refl⟩
  | tail _ needs ih =>
      obtain ⟨middle, middle_known, rfl, reaches⟩ := ih
      obtain ⟨other, other_known, rfl⟩ := represents.exists_of_knows needs.1
      have edge := (represents.edges middle middle_known other).mpr
        ⟨other_known, needs⟩
      exact ⟨other, other_known, rfl, reaches.tail edge⟩

/-- Numbers reach each other exactly as their tags do. -/
theorem reaches_iff (represents : graph.Represents project source)
    (known : id < graph.size) (known' : other < graph.size) :
    graph.Reaches id other ↔
      project.Reaches source (graph.tag id) (graph.tag other) := by
  constructor
  · intro reaches
    clear known'
    induction reaches with
    | refl => exact .refl
    | @tail middle last path edge ih =>
        have middle_known := Reaches.lt represents.formed path known
        exact ih.tail ((represents.edges middle middle_known last).mp edge).2
  · intro reaches
    obtain ⟨last, last_known, same, path⟩ :=
      represents.exists_reaches known reaches
    obtain rfl := represents.formed.tag_injective last_known known' same
    exact path

end Graph.Represents

end CodeSplit
