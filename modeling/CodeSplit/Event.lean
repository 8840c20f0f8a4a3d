/-
Module: CodeSplit.Event
Purpose: what the planner tells about its work.
Main exports:
  Level, Event, Event.level, Event.text
-/
import CodeSplit.Diagnostic
import CodeSplit.Encapsulation
import CodeSplit.Text.Quoted

namespace CodeSplit

/-- How much detail a line of the log gives, least first. -/
inductive Level where
  | error
  | warn
  | info
  | debug
  | trace
deriving Repr, DecidableEq

namespace Level

/-- The word for a level. -/
def name : Level → String
  | .error => "ERROR"
  | .warn => "WARN"
  | .info => "INFO"
  | .debug => "DEBUG"
  | .trace => "TRACE"

/-- The place of the level in the order. -/
def rank : Level → Nat
  | .error => 0
  | .warn => 1
  | .info => 2
  | .debug => 3
  | .trace => 4

end Level

/-- A step of the work that the log tells about. -/
inductive Event where
  /-- Planning starts. -/
  | planningStarted (components : Nat)
  /-- The sources are going to be read. -/
  | scanStarted (components : Nat) (withDocument : Bool)
  /-- A component's compiled output was searched. -/
  | componentScanned (tag : String) (mentioned : List String)
  /-- The root document was searched. -/
  | documentScanned (mentioned : List String)
  /-- A problem was found. -/
  | reported (problem : Diagnostic)
  /-- The graph is complete. -/
  | graphBuilt (components edges roots : Nat)
  /-- Components need each other. -/
  | cycleFound (tags : List String)
  /-- A bundle names a component that has a group already. -/
  | entrySkipped (tag : String) (bundle : Nat)
  /-- The bundles of the user have their groups. -/
  | bundlesPlaced (groups : Nat)
  /-- The root document's group is about to be made. -/
  | documentGroup (tags : List String)
  /-- The root document has its group. -/
  | documentPlaced (groups : Nat)
  /-- A walk through the graph reached a component. -/
  | walkedThrough (tag : String)
  /-- Shared components are going to be factored out. -/
  | factoringStarted (components roots : Nat)
  /-- Nothing that is left needs the component. -/
  | neededByNone (tag : String)
  /-- One component that is left needs the component. -/
  | neededByOne (tag parent : String)
  /-- Shared components join a group. -/
  | sharedMerged (tags : List String) (group : Nat)
  /-- Shared components start a group. -/
  | sharedGroup (tags : List String)
  /-- All groups are complete. -/
  | groupsPlanned (groups components : Nat)
  /-- The walks that grouping needed. -/
  | walksKept (walks groups : Nat)
  /-- Components leave a group whose styling differs from theirs. -/
  | overflowMoved (tags : List String) (kept target : Encapsulation)
  /-- An entry module is complete. -/
  | entryAssembled (key : String) (modes : List String) (scopedStyles : Bool)
  /-- A project file was read. -/
  | projectLoaded (components bundles : Nat) (file : Path)
  /-- The manifest was written. -/
  | manifestWritten (file : Path)
  /-- The manifest was not written, because the plan has errors. -/
  | manifestSkipped
deriving Repr, DecidableEq

namespace Event

/-- The level of detail at which the event is told. -/
def level : Event → Level
  | .reported problem =>
      match problem.severity with
      | .warning => .warn
      | .error => .error
  | .planningStarted .. | .scanStarted .. | .groupsPlanned ..
  | .manifestWritten .. => .info
  | .walkedThrough .. | .neededByNone .. | .neededByOne ..
  | .sharedMerged .. | .sharedGroup .. => .trace
  | .manifestSkipped => .warn
  | _ => .debug

/-- The text that tells about the event. -/
def text : Event → String
  | .planningStarted components =>
      s!"Planning entry modules for {components} components"
  | .scanStarted components withDocument =>
      s!"Scanning {components} components" ++
        if withDocument then " and the root document" else ""
  | .componentScanned tag mentioned =>
      s!"Component '{tag}' references {Text.quotedList mentioned}"
  | .documentScanned mentioned =>
      s!"Root document references {Text.quotedList mentioned}"
  | .reported problem => problem.render
  | .graphBuilt components edges roots =>
      s!"Built component graph with {components} components, {edges} edges " ++
        s!"and {roots} root tags"
  | .cycleFound tags =>
      s!"Circular component references: {Text.quotedList tags}"
  | .entrySkipped tag bundle =>
      s!"Skipping '{tag}' in user bundle #{bundle + 1}, already placed"
  | .bundlesPlaced groups => s!"{groups} entry groups after user bundles"
  | .documentGroup tags => s!"Root document group: {Text.quotedList tags}"
  | .documentPlaced groups =>
      s!"{groups} entry groups after the root document"
  | .walkedThrough tag => s!"Expanding closure through '{tag}'"
  | .factoringStarted components roots =>
      s!"Factoring {components} unclaimed components from {roots} roots"
  | .neededByNone tag => s!"'{tag}' has no dependents"
  | .neededByOne tag parent => s!"'{tag}' is only used by '{parent}'"
  | .sharedMerged tags group =>
      s!"Merging shared components {Text.quotedList tags} " ++
        s!"into entry group {group}"
  | .sharedGroup tags => s!"New shared group {Text.quotedList tags}"
  | .groupsPlanned groups components =>
      s!"Planned {groups} entry groups for {components} components"
  | .walksKept walks groups =>
      s!"Grouping computed {walks} closures for {groups} groups"
  | .overflowMoved tags kept target =>
      s!"Moving {Text.quotedList tags} out of a {kept.name} group into " ++
        s!"the {target.name} overflow group"
  | .entryAssembled key modes scopedStyles =>
      s!"{key} modes={Text.quotedList modes} scoped={scopedStyles}"
  | .projectLoaded components bundles file =>
      s!"Loaded {components} components and {bundles} bundles " ++
        s!"from {file.text}"
  | .manifestWritten file => s!"Wrote build stats to {file.text}"
  | .manifestSkipped => "Skipping build stats, the plan reported errors"

/-- The line of the log that tells about the event. -/
def line (event : Event) : String :=
  s!"{event.level.name} {event.text}"

/-- The problem that the event reports, if it reports one. -/
def problem? : Event → Option Diagnostic
  | .reported problem => some problem
  | _ => none

end Event

end CodeSplit
