/-
Module: CodeSplit.Graph.Basic
Purpose: the graph of components and of what they need.
Main exports:
  Node, Graph, Graph.link, Graph.build
-/
import CodeSplit.Ascending
import CodeSplit.Component
import CodeSplit.Planning

namespace CodeSplit

/-!
Components are numbered in the order of their tags, so that a list that is
ascending by number is ascending by tag as well, and nothing depends on the
order in which the components were declared.  An edge leads from a component to
each component that it needs: those that its compiled output mentions and those
that it declares.  No component needs itself.
-/

/-- A component in a graph, with the components that it needs. -/
structure Node where
  component : Component
  /-- Components whose tags the compiled output mentions, ascending. -/
  mentioned : List ComponentId
  /-- Components mentioned or declared, ascending. -/
  dependencies : List ComponentId
deriving Repr, DecidableEq

/-- Components by number, and the components that the root document
mentions. -/
structure Graph where
  nodes : List Node := []
  documentRoots : List ComponentId := []
deriving Repr, DecidableEq

/-- For a tag, the tags that its compiled output mentions. -/
abbrev Mentions := List (String × List String)

namespace Graph

/-! ### Looking things up -/

/-- The number of components. -/
def size (graph : Graph) : Nat :=
  graph.nodes.length

/-- The components by number, ascending. -/
def ids (graph : Graph) : List ComponentId :=
  List.range graph.size

/-- The component with a number. -/
def component? (graph : Graph) (id : ComponentId) : Option Component :=
  graph.nodes[id]?.map (·.component)

/-- The tag of a component. -/
def tag (graph : Graph) (id : ComponentId) : String :=
  ((graph.component? id).map (·.tag)).getD ""

/-- The tags of components, in the given order. -/
def tagsOf (graph : Graph) (ids : List ComponentId) : List String :=
  ids.map graph.tag

/-- The tags of all components, in order. -/
def tags (graph : Graph) : List String :=
  graph.nodes.map (·.component.tag)

/-- The number of the component with a tag. -/
def idOf? (graph : Graph) (tag : String) : Option ComponentId :=
  graph.tags.idxOf? tag

/-- What a component needs, ascending. -/
def dependencies (graph : Graph) (id : ComponentId) : List ComponentId :=
  (graph.nodes[id]?.map (·.dependencies)).getD []

/-- The components that need a component, ascending. -/
def dependents (graph : Graph) (id : ComponentId) : List ComponentId :=
  graph.ids.filter fun other => id ∈ graph.dependencies other

/-- How the styles of a component are kept apart. -/
def encapsulation (graph : Graph) (id : ComponentId) : Encapsulation :=
  ((graph.component? id).map (·.encapsulation)).getD .none

/-- Whether a component comes from outside the application. -/
def isExternal (graph : Graph) (id : ComponentId) : Bool :=
  ((graph.component? id).map (·.isExternal)).getD false

/-- The number of edges. -/
def edgeCount (graph : Graph) : Nat :=
  (graph.nodes.flatMap fun node => node.dependencies).length

/-! ### Building a graph -/

/-- Components by tag, ascending. -/
def orderByTag (components : List Component) : List Component :=
  components.mergeSort fun one other => one.tag ≤ other.tag

/-- The first tag that stands twice in a row. -/
def repeatedTag? : List String → Option String
  | one :: other :: rest =>
      if one = other then some one else repeatedTag? (other :: rest)
  | _ => none

/-- The node of a component among components with the given tags. -/
def linkNode (tags : List String) (mentions : Mentions)
    (component : Component) : Node :=
  let others (names : List String) : List ComponentId :=
    (names.filter (· ≠ component.tag)).filterMap fun name =>
      tags.idxOf? name
  let mentioned :=
    ascending (others ((mentions.lookup component.tag).getD []))
  { component := component
    mentioned := mentioned
    dependencies :=
      ascending (mentioned ++ others component.dependencies) }

/-- The graph of components that stand in the order of their tags. -/
def link (ordered : List Component) (mentions : Mentions)
    (documentTags : List String) : Graph :=
  let tags := ordered.map (·.tag)
  { nodes := ordered.map (linkNode tags mentions)
    documentRoots := ascending (documentTags.filterMap fun name =>
      tags.idxOf? name) }

/-- Declared dependencies that name no component, by component and in the
order they are declared in. -/
def unknownDependencies (ordered : List Component) : List Diagnostic :=
  let tags := ordered.map (·.tag)
  ordered.flatMap fun component =>
    (component.dependencies.filter (· ∉ tags)).map
      (Diagnostic.unknownDependency component.tag)

/-- Build the graph of components with distinct tags.  Mentioned tags that no
component has are passed over; declared ones are reported. -/
def build (components : List Component) (mentions : Mentions)
    (documentTags : List String) : Planning Graph :=
  let ordered := orderByTag components
  match repeatedTag? (ordered.map (·.tag)) with
  | some tag => .fail (.repeatedTag tag)
  | none => do
      Planning.noteAll ((unknownDependencies ordered).map .reported)
      let graph := link ordered mentions documentTags
      Planning.note (.graphBuilt graph.size graph.edgeCount
        graph.documentRoots.length)
      return graph

@[simp] theorem length_ids (graph : Graph) : graph.ids.length = graph.size := by
  simp [ids]

theorem mem_ids {graph : Graph} {id : ComponentId} :
    id ∈ graph.ids ↔ id < graph.size := by
  simp [ids]

/-- Only components need anything. -/
theorem dependencies_of_size_le {graph : Graph} {id : ComponentId}
    (beyond : graph.size ≤ id) : graph.dependencies id = [] := by
  rw [dependencies, List.getElem?_eq_none beyond]
  rfl

theorem mem_dependents {graph : Graph} {id other : ComponentId} :
    other ∈ graph.dependents id ↔
      other < graph.size ∧ id ∈ graph.dependencies other := by
  simp [dependents, mem_ids]

end Graph

end CodeSplit
