/-
Module: CodeSplit.Proofs.SourceEdges
Purpose: the graph that is built from sources has the components that can be
  read, and its edges and roots are exactly what their sources mention and what
  they declare.
Main exports:
  Markup.mem_mentionedTags, Node.Refers, Graph.Refers, Graph.refers_ofSources
-/
import CodeSplit.Proofs.GraphBuilding

namespace CodeSplit

/-! ### Tags found among candidates -/

namespace Markup

variable {candidates : List String} {text tag : String}

/-- What is found among candidates is what the text mentions of them, in lower
case; an empty text, which is not searched, mentions nothing. -/
theorem mem_mentionedTags :
    tag ∈ mentionedTags candidates text ↔
      (∃ candidate ∈ candidates, Text.lowerCase candidate = tag) ∧
        mentions text tag = true := by
  rw [mentionedTags]
  split
  · rename_i empty
    rw [empty, mentions_of_empty_text]
    simp
  · rw [mem_ascending, List.mem_filter, List.mem_map]
    rfl

theorem mentionedTags_pairwise (candidates : List String) (text : String) :
    (mentionedTags candidates text).Pairwise (· < ·) := by
  rw [mentionedTags]
  split
  · exact List.Pairwise.nil
  · exact ascending_pairwise _

end Markup

/-! ### What a graph of sources holds -/

/-- The edges from a node are exactly the references of its component, which is
`own` with the given compiled output: mentioned are the other components whose
tags the output mentions, as the search of the output for the tags of these
finds them, and needed besides are those that the record declares. -/
structure Node.Refers (node : Node) (graph : Graph) (own : Component)
    (text : String) : Prop where
  mentioned_ascending : node.mentioned.Pairwise (· < ·)
  mem_mentioned : ∀ id, id ∈ node.mentioned ↔
    id < graph.size ∧ graph.tag id ≠ own.tag ∧
      Markup.mentions text (graph.tag id) = true
  tagsOf_mentioned : graph.tagsOf node.mentioned =
    Markup.mentionedTags (graph.tags.filter (· ≠ own.tag)) text
  dependencies_ascending : node.dependencies.Pairwise (· < ·)
  mem_dependencies : ∀ id, id ∈ node.dependencies ↔
    id ∈ node.mentioned ∨
      id < graph.size ∧ graph.tag id ≠ own.tag ∧
        graph.tag id ∈ own.dependencies

/-- A component without unreadable ones among what it declares. -/
def Component.withoutUnreadable (source : Source)
    (components : List Component) (own : Component) : Component :=
  { own with
    dependencies := own.dependencies.filter
      (· ∉ Graph.unreadableTags (Graph.scanComponents source components)) }

/-- The nodes of a graph are exactly the components that can be read, in the
strict order of their tags, with exactly their references as edges; the roots
are exactly the components that the root document mentions, as far as there is
one that can be read. -/
structure Graph.Refers (graph : Graph) (source : Source)
    (components : List Component) (document? : Option Path) : Prop where
  ascending : graph.tags.Pairwise (· < ·)
  exists_node : ∀ own ∈ components, own.Readable source →
    ∃ node ∈ graph.nodes,
      node.component = own.withoutUnreadable source components
  refers : ∀ node ∈ graph.nodes, ∃ own ∈ components, ∃ text,
    source own.source = .ok text ∧
    node.component = own.withoutUnreadable source components ∧
    node.Refers graph own text
  roots_ascending : graph.documentRoots.Pairwise (· < ·)
  mem_documentRoots : ∀ id, id ∈ graph.documentRoots ↔
    id < graph.size ∧ ∃ path text, document? = some path ∧
      source path = .ok text ∧
      Markup.mentions text (graph.tag id) = true

namespace Graph

/-- The tags of such a graph are those of the components that can be read. -/
theorem Refers.mem_tags {graph : Graph} {source : Source}
    {components : List Component} {document? : Option Path}
    (refers : graph.Refers source components document?) {tag : String} :
    tag ∈ graph.tags ↔
      ∃ own ∈ components, own.Readable source ∧ own.tag = tag := by
  rw [tags, List.mem_map]
  constructor
  · intro given
    obtain ⟨node, among, rfl⟩ := given
    obtain ⟨own, declared, text, read, same, _⟩ := refers.refers node among
    exact ⟨own, declared, ⟨text, read⟩, by rw [same]; rfl⟩
  · intro given
    obtain ⟨own, declared, readable, rfl⟩ := given
    obtain ⟨node, among, same⟩ := refers.exists_node own declared readable
    exact ⟨node, among, by rw [same]; rfl⟩

/-! ### The graph of sources -/

variable {source : Source} {components : List Component}
variable {document? : Option Path}

/-- A tag of the graph stays among what a component declares. -/
theorem mem_dependencies_withoutUnreadable
    (distinct : (components.map (·.tag)).Nodup) {own : Component}
    {tag : String}
    (found : tag ∈ (sourceGraph source components document?).tags) :
    tag ∈ (own.withoutUnreadable source components).dependencies ↔
      tag ∈ own.dependencies := by
  obtain ⟨other, among, readable, rfl⟩ :=
    exists_of_mem_tags_sourceGraph distinct found
  have kept : other.tag ∉
      unreadableTags (scanComponents source components) := by
    rw [tag_mem_unreadableTags_iff distinct among, not_not]
    exact readable
  rw [Component.withoutUnreadable, List.mem_filter, decide_eq_true_iff,
    and_iff_left kept]

/-- Mentioned tags in the order of numbers are what the search for the other
tags finds. -/
theorem tagsOf_mentioned_eq {graph : Graph} (formed : graph.WellFormed)
    (lower : ∀ tag ∈ graph.tags, Text.lowerCase tag = tag)
    {mentioned : List ComponentId} (ordered : mentioned.Pairwise (· < ·))
    {own text : String}
    (mem_mentioned : ∀ id, id ∈ mentioned ↔
      id < graph.size ∧ graph.tag id ≠ own ∧
        Markup.mentions text (graph.tag id) = true) :
    graph.tagsOf mentioned =
      Markup.mentionedTags (graph.tags.filter (· ≠ own)) text := by
  have ascends : (graph.tagsOf mentioned).Pairwise (· < ·) := by
    refine List.pairwise_map.mpr (ordered.imp_of_mem ?_)
    intro id other _ among below
    exact formed.tag_lt below ((mem_mentioned other).mp among).1
  refine List.Pairwise.eq_of_mem_iff ascends
    (Markup.mentionedTags_pairwise _ _) fun tag => ?_
  rw [Markup.mem_mentionedTags, tagsOf, List.mem_map]
  constructor
  · intro given
    obtain ⟨id, among, rfl⟩ := given
    obtain ⟨known, apart, mentions⟩ := (mem_mentioned id).mp among
    have found := List.mem_of_getElem? (getElem?_tags known)
    exact ⟨⟨_, List.mem_filter.mpr ⟨found, decide_eq_true apart⟩,
      lower _ found⟩, mentions⟩
  · intro given
    obtain ⟨⟨candidate, among, same⟩, mentions⟩ := given
    obtain ⟨found, apart⟩ := List.mem_filter.mp among
    rw [lower candidate found] at same
    subst same
    obtain ⟨id, at_id⟩ := List.mem_iff_getElem?.mp found
    obtain ⟨known, rfl⟩ := getElem?_tags_eq_some_iff.mp at_id
    exact ⟨id, (mem_mentioned id).mpr
      ⟨known, of_decide_eq_true apart, mentions⟩, rfl⟩

/-- The node of a component that can be read has its references as edges. -/
theorem refers_linkNode (distinct : (components.map (·.tag)).Nodup)
    (lower : ∀ component ∈ components,
      Text.lowerCase component.tag = component.tag)
    (document? : Option Path) {own : Component} (among : own ∈ components)
    {text : String} (read : source own.source = .ok text) :
    (linkNode (sourceGraph source components document?).tags
      (mentionsOf (scanComponents source components))
      (own.withoutUnreadable source components)).Refers
        (sourceGraph source components document?) own text := by
  have formed := wellFormed_sourceGraph source distinct document?
  have tags_distinct : (sourceGraph source components document?).tags.Nodup :=
    formed.tags_ascending.imp ne_of_lt
  have tags_lower : ∀ tag ∈ (sourceGraph source components document?).tags,
      Text.lowerCase tag = tag := by
    intro tag found
    obtain ⟨component, declared, _, rfl⟩ :=
      exists_of_mem_tags_sourceGraph distinct found
    exact lower component declared
  have mem_tags {id : ComponentId}
      (known : id < (sourceGraph source components document?).size) :=
    List.mem_of_getElem? (getElem?_tags known)
  have candidate {id : ComponentId}
      (known : id < (sourceGraph source components document?).size) :
      (sourceGraph source components document?).tag id ∈
        components.map (·.tag) := by
    obtain ⟨component, declared, _, same⟩ :=
      exists_of_mem_tags_sourceGraph distinct (mem_tags known)
    exact same ▸ List.mem_map_of_mem declared
  have links := links_linkNode tags_distinct
    (mentionsOf (scanComponents source components))
    (own.withoutUnreadable source components)
  have mem_mentioned (id : ComponentId) :
      id ∈ (linkNode (sourceGraph source components document?).tags
        (mentionsOf (scanComponents source components))
        (own.withoutUnreadable source components)).mentioned ↔
      id < (sourceGraph source components document?).size ∧
        (sourceGraph source components document?).tag id ≠ own.tag ∧
        Markup.mentions text
          ((sourceGraph source components document?).tag id) = true := by
    apply links.mem_mentioned.trans
    constructor
    · intro given
      rcases given with ⟨known, _, kept⟩
      exact ⟨known,
        (mem_lookup_mentionsOf distinct among read (candidate known)).mp kept⟩
    · intro given
      rcases given with ⟨known, mentioned⟩
      exact ⟨known, mentioned.1,
        (mem_lookup_mentionsOf distinct among read (candidate known)).mpr
          mentioned⟩
  refine ⟨ascending_pairwise _, mem_mentioned,
    tagsOf_mentioned_eq formed tags_lower (ascending_pairwise _) mem_mentioned,
    links.dependencies_ascending, fun id => ?_⟩
  rw [links.mem_dependencies, links.mem_mentioned]
  constructor
  · intro given
    rcases given with ⟨known, apart, kept | declared⟩
    · exact Or.inl ⟨known, apart, kept⟩
    · exact Or.inr ⟨known, apart, (mem_dependencies_withoutUnreadable distinct
        (mem_tags known)).mp declared⟩
  · intro given
    rcases given with ⟨known, apart, kept⟩ | ⟨known, apart, declared⟩
    · exact ⟨known, apart, Or.inl kept⟩
    · exact ⟨known, apart, Or.inr ((mem_dependencies_withoutUnreadable distinct
        (mem_tags known)).mpr declared)⟩

/-- From components with distinct tags in lower case a graph is built whose
edges are exactly their references. -/
theorem refers_ofSources (distinct : (components.map (·.tag)).Nodup)
    (lower : ∀ component ∈ components,
      Text.lowerCase component.tag = component.tag)
    (source : Source) (document? : Option Path) :
    ∃ graph, (ofSources source false components document?).outcome =
        .ok graph ∧ graph.Refers source components document? := by
  have formed := wellFormed_sourceGraph source distinct document?
  have nodes : (sourceGraph source components document?).nodes =
      (readableComponents source components).map
        (linkNode (sourceGraph source components document?).tags
          (mentionsOf (scanComponents source components))) := by
    rw [sourceGraph, tags_link]
    rfl
  refine ⟨_, outcome_ofSources distinct document?, formed.tags_ascending, ?_,
    ?_, formed.roots_ascending,
    fun _ => mem_documentRoots_sourceGraph distinct⟩
  · intro own among readable
    rw [nodes]
    refine ⟨_, List.mem_map_of_mem
      ((mem_readableComponents distinct).mpr ⟨own, among, readable, rfl⟩), rfl⟩
  · intro node found
    rw [nodes] at found
    obtain ⟨component, kept, rfl⟩ := List.mem_map.mp found
    obtain ⟨own, among, ⟨text, read⟩, rfl⟩ :=
      (mem_readableComponents distinct).mp kept
    exact ⟨own, among, text, read, rfl,
      refers_linkNode distinct lower document? among read⟩

end Graph

/-- Components of the shop with tags in lower case.  The application declares to
need the banner, whose output is missing. -/
def shopRecords : List Component :=
  [{ tag := "shop-card", source := ⟨"card.js"⟩, isExternal := true },
   { tag := "shop-banner", source := ⟨"banner.js"⟩ },
   { tag := "shop-app", source := ⟨"app.js"⟩,
     dependencies := ["shop-banner", "shop-app"] }]

/-- The graph of these components has no banner, and its application mentions the
card. -/
theorem refers_ofSources_shop :
    (shopRecords.map (·.tag)).Nodup ∧
    (∀ component ∈ shopRecords,
      Text.lowerCase component.tag = component.tag) ∧
    ∃ graph, (Graph.ofSources shopSource false shopRecords none).outcome =
        .ok graph ∧ graph.Refers shopSource shopRecords none ∧
      graph.tags = ["shop-app", "shop-card"] ∧
      ∃ node ∈ graph.nodes, node.component.tag = "shop-app" ∧
        graph.tagsOf node.mentioned = ["shop-card"] := by
  have distinct : (shopRecords.map (·.tag)).Nodup := by decide
  have lower : ∀ component ∈ shopRecords,
      Text.lowerCase component.tag = component.tag := by decide +kernel
  obtain ⟨graph, went, refers⟩ :=
    Graph.refers_ofSources distinct lower shopSource none
  have tags : graph.tags = ["shop-app", "shop-card"] := by
    refine List.Pairwise.eq_of_mem_iff refers.ascending (by decide)
      fun tag => ?_
    simp only [refers.mem_tags, shopRecords, List.mem_cons, List.not_mem_nil,
      or_false, exists_eq_or_imp, exists_eq_left]
    constructor
    · rintro (⟨_, rfl⟩ | ⟨⟨_, read⟩, _⟩ | ⟨_, rfl⟩)
      · exact Or.inr rfl
      · cases read
      · exact Or.inl rfl
    · rintro (rfl | rfl)
      · exact Or.inr (Or.inr ⟨⟨_, rfl⟩, rfl⟩)
      · exact Or.inl ⟨⟨_, rfl⟩, rfl⟩
  refine ⟨distinct, lower, graph, went, refers, tags, ?_⟩
  obtain ⟨node, among, at_app⟩ := List.mem_map.mp
    (tags ▸ List.mem_cons_self : "shop-app" ∈ graph.tags)
  refine ⟨node, among, at_app, ?_⟩
  obtain ⟨own, declared, text, read, same, edges⟩ := refers.refers node among
  have own_tag : own.tag = "shop-app" := by
    rw [← at_app, same]
    rfl
  obtain rfl | rfl | rfl : own = _ ∨ own = _ ∨ own = _ := by
    simpa [shopRecords] using declared
  · simp at own_tag
  · simp at own_tag
  · obtain rfl := Except.ok.inj read
    rw [edges.tagsOf_mentioned, tags]
    decide +kernel

end CodeSplit
