/-
Module: CodeSplit.Proofs.GraphBuilding
Purpose: when building a graph fails, what the numbers, edges and roots of a
  graph that is built are, and what building does not depend on.
Main exports:
  Graph.edges, Graph.startsOfEdgesTo, Graph.dependents_eq_startsOfEdgesTo,
  Node.Links, Graph.Links, Graph.links_link, Graph.build_linked
-/
import CodeSplit.Proofs.Reordering
import Mathlib.Data.List.Duplicate

namespace CodeSplit

namespace Graph

/-!
A graph keeps its edges as the lists of dependencies, and the dependents of a
component are found by going through all of these.  The same edges can be told by
the tags that outputs and records name, or one by one as a list of pairs, which no
graph keeps and which serves to say what the dependents are.  All three accounts
agree whatever unknown, repeated or own tags are named.
-/

/-! ### The list of edges -/

/-- The edges of a graph, from each component to what it needs. -/
def edges (graph : Graph) : List (ComponentId × ComponentId) :=
  graph.nodes.zipIdx.flatMap fun (node, id) =>
    node.dependencies.map fun needed => (id, needed)

/-- The components at which the edges to a component start, ascending. -/
def startsOfEdgesTo (graph : Graph) (id : ComponentId) : List ComponentId :=
  ascending ((graph.edges.filter fun edge => edge.2 = id).map Prod.fst)

variable {graph : Graph} {id other : ComponentId}

theorem mem_edges : (id, other) ∈ graph.edges ↔
    other ∈ graph.dependencies id := by
  rw [edges, List.mem_flatMap, dependencies]
  constructor
  · intro given
    rcases given with ⟨⟨node, start⟩, among, leads⟩
    rcases List.mem_map.mp leads with ⟨needed, needs, same⟩
    cases same
    rw [List.mem_zipIdx_iff_getElem?.mp among]
    exact needs
  · intro needs
    cases at_id : graph.nodes[id]? with
    | none =>
        rw [at_id] at needs
        cases needs
    | some node =>
        rw [at_id] at needs
        exact ⟨(node, id), List.mem_zipIdx_iff_getElem?.mpr at_id,
          List.mem_map_of_mem needs⟩

theorem edgeCount_eq_length_edges (graph : Graph) :
    graph.edgeCount = graph.edges.length := by
  have ends : graph.nodes.flatMap (·.dependencies) =
      graph.edges.map Prod.snd := by
    rw [edges, List.map_flatMap, ← List.zipIdx_map_fst 0 graph.nodes,
      List.flatMap_map]
    simp [Function.comp_def]
  rw [edgeCount, ends, List.length_map]

theorem dependents_pairwise (graph : Graph) (id : ComponentId) :
    (graph.dependents id).Pairwise (· < ·) :=
  List.pairwise_lt_range.filter _

/-- Exactly the components that need a component are its dependents. -/
theorem mem_dependents_iff :
    other ∈ graph.dependents id ↔ id ∈ graph.dependencies other := by
  rw [mem_dependents, and_iff_right_iff_imp]
  intro needs
  by_contra beyond
  rw [dependencies_of_size_le (Nat.le_of_not_lt beyond)] at needs
  cases needs

/-- The dependents of a component are the starts of the edges to it. -/
theorem dependents_eq_startsOfEdgesTo (graph : Graph) (id : ComponentId) :
    graph.dependents id = graph.startsOfEdgesTo id := by
  apply Eq.symm
  apply ascending_eq_of_mem_iff (graph.dependents_pairwise id)
  intro start
  rw [mem_dependents_iff, ← mem_edges]
  simp

end Graph

/-! ### What a graph holds -/

/-- A node leads exactly to the other components whose tags are found in the
output of its component or declared by it; those that are found are mentioned. -/
structure Node.Links (node : Node) (graph : Graph) (found : List String) :
    Prop where
  dependencies_ascending : node.dependencies.Pairwise (· < ·)
  mem_dependencies : ∀ id, id ∈ node.dependencies ↔
    id < graph.size ∧ graph.tag id ≠ node.component.tag ∧
      (graph.tag id ∈ found ∨ graph.tag id ∈ node.component.dependencies)
  mentioned : node.mentioned =
    node.dependencies.filter fun id => graph.tag id ∈ found

/-- A graph has the components as nodes, numbered in the strict order of their
tags, with edges to exactly those that they name, and its roots are exactly the
components that the root document mentions. -/
structure Graph.Links (graph : Graph) (components : List Component)
    (mentions : Mentions) (documentTags : List String) : Prop where
  components_perm : (graph.nodes.map (·.component)).Perm components
  tags_ascending : graph.tags.Pairwise (· < ·)
  idOf?_eq_some_iff : ∀ tag id,
    graph.idOf? tag = some id ↔ id < graph.size ∧ graph.tag id = tag
  nodes : ∀ node ∈ graph.nodes,
    node.Links graph ((mentions.lookup node.component.tag).getD [])
  roots_ascending : graph.documentRoots.Pairwise (· < ·)
  mem_documentRoots : ∀ id, id ∈ graph.documentRoots ↔
    id < graph.size ∧ graph.tag id ∈ documentTags
  mem_edges : ∀ id other,
    (id, other) ∈ graph.edges ↔ other ∈ graph.dependencies id
  edgeCount_eq : graph.edgeCount = graph.edges.length
  dependents_ascending : ∀ id, (graph.dependents id).Pairwise (· < ·)
  mem_dependents : ∀ id other,
    other ∈ graph.dependents id ↔ id ∈ graph.dependencies other
  dependents_eq : ∀ id, graph.dependents id = graph.startsOfEdgesTo id

/-- What is mentioned are the other components whose tags are found. -/
theorem Node.Links.mem_mentioned {node : Node} {graph : Graph}
    {found : List String} (links : node.Links graph found) {id : ComponentId} :
    id ∈ node.mentioned ↔
      id < graph.size ∧ graph.tag id ≠ node.component.tag ∧
        graph.tag id ∈ found := by
  rw [links.mentioned, List.mem_filter, decide_eq_true_iff,
    links.mem_dependencies]
  tauto

namespace Graph

/-! ### The edges of one node -/

section

variable {graph : Graph} {mentions : Mentions} {component : Component}
variable {id : ComponentId}

theorem mem_mentioned_linkNode (distinct : graph.tags.Nodup) :
    id ∈ (linkNode graph.tags mentions component).mentioned ↔
      id < graph.size ∧ graph.tag id ≠ component.tag ∧
        graph.tag id ∈ (mentions.lookup component.tag).getD [] := by
  simp only [linkNode, mem_ascending, mem_filterMap_idxOf? distinct,
    List.mem_filter, decide_eq_true_eq, getElem?_tags_eq_some_iff]
  constructor
  · intro given
    rcases given with ⟨_, ⟨found, apart⟩, known, rfl⟩
    exact ⟨known, apart, found⟩
  · intro given
    rcases given with ⟨known, apart, found⟩
    exact ⟨_, ⟨found, apart⟩, known, rfl⟩

theorem mem_dependencies_linkNode (distinct : graph.tags.Nodup) :
    id ∈ (linkNode graph.tags mentions component).dependencies ↔
      id < graph.size ∧ graph.tag id ≠ component.tag ∧
        (graph.tag id ∈ (mentions.lookup component.tag).getD [] ∨
          graph.tag id ∈ component.dependencies) := by
  have parts : id ∈ (linkNode graph.tags mentions component).dependencies ↔
      id ∈ (linkNode graph.tags mentions component).mentioned ∨
        ∃ name, (name ∈ component.dependencies ∧ name ≠ component.tag) ∧
          id < graph.size ∧ graph.tag id = name := by
    simp only [linkNode, mem_ascending, List.mem_append,
      mem_filterMap_idxOf? distinct, List.mem_filter, decide_eq_true_eq,
      getElem?_tags_eq_some_iff]
  rw [parts, mem_mentioned_linkNode distinct]
  constructor
  · intro given
    rcases given with ⟨known, apart, found⟩ | ⟨_, ⟨declared, apart⟩, known, rfl⟩
    · exact ⟨known, apart, Or.inl found⟩
    · exact ⟨known, apart, Or.inr declared⟩
  · intro given
    rcases given with ⟨known, apart, found | declared⟩
    · exact Or.inl ⟨known, apart, found⟩
    · exact Or.inr ⟨_, ⟨declared, apart⟩, known, rfl⟩

end

/-! ### What linking makes of ordered components -/

/-- A node that is made for the tags of a graph leads where its component names
tags. -/
theorem links_linkNode {graph : Graph} (distinct : graph.tags.Nodup)
    (mentions : Mentions) (component : Component) :
    (linkNode graph.tags mentions component).Links graph
      ((mentions.lookup component.tag).getD []) := by
  have ordered : (linkNode graph.tags mentions component).mentioned.Pairwise
      (· < ·) := ascending_pairwise _
  have ordered' : (linkNode graph.tags mentions component).dependencies.Pairwise
      (· < ·) := ascending_pairwise _
  refine
    { dependencies_ascending := ordered'
      mem_dependencies := fun _ => mem_dependencies_linkNode distinct
      mentioned := ?_ }
  apply ordered.eq_of_mem_iff (ordered'.filter _)
  intro id
  rw [List.mem_filter, decide_eq_true_iff, mem_mentioned_linkNode distinct,
    mem_dependencies_linkNode distinct]
  tauto

variable {ordered : List Component} {mentions : Mentions}
variable {documentTags : List String}

theorem map_component_link :
    (link ordered mentions documentTags).nodes.map (·.component) = ordered := by
  simp [link, linkNode, Function.comp_def]

/-- Linking components that stand in the strict order of their tags makes a graph
with exactly their edges. -/
theorem links_link (ascends : (ordered.map (·.tag)).Pairwise (· < ·)) :
    (link ordered mentions documentTags).Links ordered mentions
      documentTags := by
  have formed : (link ordered mentions documentTags).WellFormed :=
    wellFormed_link ascends
  have distinct := formed.tags_ascending.imp ne_of_lt
  refine
    { components_perm := List.Perm.of_eq map_component_link
      tags_ascending := formed.tags_ascending
      idOf?_eq_some_iff := fun _ _ => formed.idOf?_eq_some_iff
      nodes := ?_
      roots_ascending := formed.roots_ascending
      mem_documentRoots := ?_
      mem_edges := fun _ _ => mem_edges
      edgeCount_eq := edgeCount_eq_length_edges _
      dependents_ascending := dependents_pairwise _
      mem_dependents := fun _ _ => mem_dependents_iff
      dependents_eq := dependents_eq_startsOfEdgesTo _ }
  · intro node among
    rcases List.mem_map.mp among with ⟨component, _, rfl⟩
    rw [← tags_link]
    exact links_linkNode distinct mentions component
  · intro id
    rw [mem_documentRoots_link (ascends.imp ne_of_lt), size_link, tag_link]
    constructor
    · intro given
      rcases given with ⟨component, at_id, mentioned⟩
      rw [at_id]
      exact ⟨(List.getElem?_eq_some_iff.mp at_id).1, mentioned⟩
    · intro given
      rcases given with ⟨known, mentioned⟩
      rw [List.getElem?_eq_getElem known] at mentioned
      exact ⟨_, List.getElem?_eq_getElem known, mentioned⟩

/-- Of the tags that the application names, its own and the unknown one lead
nowhere, and the repeated one leads to the row once. -/
example :
    (link
      [{ tag := "shop-app", source := ⟨"app.js"⟩,
         dependencies := ["shop-card"] },
        { tag := "shop-card", source := ⟨"card.js"⟩ },
        { tag := "shop-row", source := ⟨"row.js"⟩ }]
      [("shop-app", ["shop-row", "shop-app", "shop-row", "shop-icon"])]
      []).edges = [(0, 1), (0, 2)] := by
  decide

/-! ### When building fails -/

/-- In tags that are in order, the first that stands twice in a row is the least
of those that are repeated. -/
theorem least_of_repeatedTag?_some {tags : List String} {tag : String}
    (ordered : tags.Pairwise (· ≤ ·)) (repeated : repeatedTag? tags = some tag) :
    tags.Duplicate tag ∧ ∀ other, tags.Duplicate other → tag ≤ other := by
  induction tags with
  | nil => cases repeated
  | cons one rest ih =>
      cases rest with
      | nil => cases repeated
      | cons next rest =>
          have rest_ordered := List.pairwise_cons.mp ordered
          rw [repeatedTag?] at repeated
          split at repeated
          · rename_i twice
            cases repeated
            refine ⟨.cons_mem (twice ▸ List.mem_cons_self), fun other given => ?_⟩
            rcases List.mem_cons.mp given.mem with rfl | found
            · exact le_refl _
            · exact rest_ordered.1 other found
          · rename_i apart
            rcases ih rest_ordered.2 repeated with ⟨duplicate, least⟩
            refine ⟨.cons_duplicate duplicate, fun other given => ?_⟩
            rcases List.duplicate_cons_iff.mp given with ⟨rfl, again⟩ | given
            · -- A tag that comes again later stands next to itself.
              have above : next ≤ one := by
                rcases List.mem_cons.mp again with same | found
                · exact absurd same apart
                · exact (List.pairwise_cons.mp rest_ordered.2).1 one found
              exact absurd
                (le_antisymm (rest_ordered.1 next List.mem_cons_self) above) apart
            · exact least other given

variable {components : List Component}

/-- Building stops at the least tag that components share, and reports nothing. -/
theorem exists_build_eq_fail (mentions : Mentions) (documentTags : List String)
    (shared : ¬ (components.map (·.tag)).Nodup) :
    ∃ tag, build components mentions documentTags =
        Planning.fail (.repeatedTag tag) ∧
      (components.map (·.tag)).Duplicate tag ∧
      ∀ other, (components.map (·.tag)).Duplicate other → tag ≤ other := by
  have perm := (orderByTag_perm components).map (·.tag)
  have duplicate_iff (tag : String) :
      ((orderByTag components).map (·.tag)).Duplicate tag ↔
        (components.map (·.tag)).Duplicate tag := by
    rw [List.duplicate_iff_two_le_count, perm.count_eq,
      List.duplicate_iff_two_le_count]
  cases repeated : repeatedTag? ((orderByTag components).map (·.tag)) with
  | none => exact absurd (repeatedTag?_orderByTag.mp repeated) shared
  | some tag =>
      have least :=
        least_of_repeatedTag?_some (orderByTag_pairwise components) repeated
      simp only [duplicate_iff] at least
      refine ⟨tag, ?_, least⟩
      simp only [build, repeated]

theorem not_nodup_of_build_error {fault : Fault}
    (failed : (build components mentions documentTags).outcome =
      .error fault) : ¬ (components.map (·.tag)).Nodup := by
  intro distinct
  rw [outcome_build mentions documentTags distinct] at failed
  cases failed

/-! ### What building comes to -/

/-- Components that share no tag are built to a graph with exactly their edges.
-/
theorem links_of_nodup (mentions : Mentions) (documentTags : List String)
    (distinct : (components.map (·.tag)).Nodup) :
    (link (orderByTag components) mentions documentTags).Links components
      mentions documentTags := by
  have ascends := pairwise_of_repeatedTag?_none (orderByTag_pairwise components)
    (repeatedTag?_orderByTag.mpr distinct)
  have linked : (link (orderByTag components) mentions documentTags).Links
      (orderByTag components) mentions documentTags := links_link ascends
  exact { linked with
    components_perm := linked.components_perm.trans
      (orderByTag_perm components) }

/-- Building a graph fails exactly if two components share a tag, and then with
the least such tag and without reporting a problem.  Otherwise the graph has the
components in the order of their tags and exactly the edges and roots that are
named.  Neither the order of the components nor the order and repetition of
what is mentioned makes a difference to the graph or to what is reported. -/
theorem build_linked (components : List Component) (mentions : Mentions)
    (documentTags : List String) :
    ((∃ fault, (build components mentions documentTags).outcome =
        .error fault) ↔ ¬ (components.map (·.tag)).Nodup) ∧
    (∀ fault, (build components mentions documentTags).outcome =
        .error fault →
      (build components mentions documentTags).problems = [] ∧
      ∃ tag, fault = .repeatedTag tag ∧
        (components.map (·.tag)).Duplicate tag ∧
        ∀ other, (components.map (·.tag)).Duplicate other → tag ≤ other) ∧
    (∀ graph, (build components mentions documentTags).outcome = .ok graph →
      graph.Links components mentions documentTags) ∧
    ∀ (components' : List Component) (mentions' : Mentions)
      (documentTags' : List String), components'.Perm components →
      (∀ tag name, name ∈ (mentions'.lookup tag).getD [] ↔
        name ∈ (mentions.lookup tag).getD []) →
      (∀ name, name ∈ documentTags' ↔ name ∈ documentTags) →
      build components' mentions' documentTags' =
        build components mentions documentTags := by
  refine ⟨?_, ?_, ?_, ?_⟩
  · constructor
    · intro given
      rcases given with ⟨_, failed⟩
      exact not_nodup_of_build_error failed
    · intro shared
      rcases exists_build_eq_fail mentions documentTags shared with
        ⟨tag, stopped, _⟩
      exact ⟨.repeatedTag tag, congrArg Planning.outcome stopped⟩
  · intro fault failed
    rcases exists_build_eq_fail mentions documentTags
      (not_nodup_of_build_error failed) with ⟨tag, stopped, least⟩
    rw [stopped] at failed ⊢
    cases failed
    exact ⟨rfl, tag, rfl, least⟩
  · intro graph built
    have distinct := nodup_of_build built
    rw [outcome_build mentions documentTags distinct] at built
    cases built
    exact links_of_nodup mentions documentTags distinct
  · intro components' mentions' documentTags' perm same roots
    exact build_eq_of_perm same roots perm

/-- The shop has its graph in any order of its components, and none if they are
declared twice. -/
theorem build_linked_shop :
    (shopGraph ["shop-list"]).Links shopComponents [] ["shop-list"] ∧
    build shopComponents.reverse [] ["shop-list", "shop-list"] =
      build shopComponents [] ["shop-list"] ∧
    ∃ fault, (build (shopComponents ++ shopComponents) []
      ["shop-list"]).outcome = .error fault := by
  rcases build_linked shopComponents [] ["shop-list"] with ⟨_, _, links, same⟩
  rcases build_linked (shopComponents ++ shopComponents) [] ["shop-list"] with
    ⟨fails, _⟩
  refine ⟨links _ (outcome_build_shop _), ?_, fails.mpr (by decide)⟩
  apply same
  · exact List.reverse_perm _
  · exact fun _ _ => Iff.rfl
  · simp

end Graph

end CodeSplit
