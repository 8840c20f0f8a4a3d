/-
Module: CodeSplit.Graph.Sources
Purpose: the graph of components whose compiled output is read from a source.
Main exports:
  Scan, Graph.ofSources
-/
import CodeSplit.Graph.Cycle
import CodeSplit.Markup

namespace CodeSplit

/-!
The compiled output of every component, and the root document if there is one,
is read and searched for the tags of all components.  A component whose output
cannot be read is reported and left out of the graph: neither its own record nor
a mention of its tag leaves a trace there.  A root document that cannot be read
is reported and counts as one that mentions nothing.
-/

/-- What became of reading one text: the tags it mentions, or why it could not
be read. -/
abbrev Scan := Except ReadError (List String)

namespace Scan

/-- The tags among `tags`, apart from `own?`, that a text mentions. -/
def mentionedIn (tags : List String) (own? : Option String) (text : String) :
    List String :=
  if text = "" then []
  else
    let normal := Markup.normalizeChars text.toList
    tags.filter fun tag =>
      some tag ≠ own? && Markup.mentionsIn normal tag.toList

/-- Read a text and search it for tags. -/
def ofSource (source : Source) (tags : List String) (own? : Option String)
    (path : Path) : Scan :=
  match source path with
  | .error cause => .error cause
  | .ok text => .ok (mentionedIn tags own? text)

end Scan

namespace Graph

/-- The tags of components, in order. -/
def sortedTags (components : List Component) : List String :=
  (components.map (·.tag)).mergeSort fun one other => one ≤ other

/-- What became of reading the output of every component. -/
def scanComponents (source : Source) (components : List Component) :
    List (Component × Scan) :=
  let tags := sortedTags components
  components.map fun component =>
    (component, Scan.ofSource source tags (some component.tag)
      component.source)

/-- What the log tells about reading the output of a component. -/
def scanEvent : Component × Scan → Event
  | (component, .ok mentioned) => .componentScanned component.tag mentioned
  | (component, .error cause) =>
      .reported
        (.unreadableComponent component.tag component.source cause)

/-- The tags mentioned by each output that was read. -/
def mentionsOf (scans : List (Component × Scan)) : Mentions :=
  scans.filterMap fun
    | (component, .ok mentioned) => some (component.tag, mentioned)
    | (_, .error _) => none

/-- The tags of the components whose output could not be read. -/
def unreadableTags (scans : List (Component × Scan)) : List String :=
  scans.filterMap fun
    | (_, .ok _) => none
    | (component, .error _) => some component.tag

/-- The components without those that have one of the tags, which are not
declared to be needed any more either. -/
def exclude (tags : List String) (components : List Component) :
    List Component :=
  (components.filter fun component => component.tag ∉ tags).map
    fun component =>
      { component with
        dependencies := component.dependencies.filter (· ∉ tags) }

/-- The tags that the root document mentions. -/
def scanDocument (source : Source) (tags : List String) :
    Option Path → Planning (List String)
  | none => pure []
  | some path =>
      match Scan.ofSource source tags none path with
      | .ok mentioned => pure mentioned
      | .error cause => do
          Planning.report (.unreadableDocument path cause)
          return []

/-- Read all sources and build the graph. -/
def ofSources (source : Source) (aborted : Bool)
    (components : List Component) (document? : Option Path) :
    Planning Graph := do
  Planning.note (.scanStarted components.length document?.isSome)
  if aborted then
    Planning.fail .aborted
  else
    let scans := scanComponents source components
    Planning.noteAll (scans.map scanEvent)
    let documentTags ←
      scanDocument source (sortedTags components) document?
    Planning.note (.documentScanned documentTags)
    let graph ←
      build (exclude (unreadableTags scans) components) (mentionsOf scans)
        documentTags
    Planning.noteAll (graph.cycles.map fun cycle =>
      .cycleFound (graph.tagsOf cycle))
    return graph

end Graph

end CodeSplit
