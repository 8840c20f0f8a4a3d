/-
Module: CodeSplit.Plan
Purpose: the plan of a project: its entry modules and the problems found.
Main exports:
  Project, Plan, Graph.planEntries, Project.planning, Project.plan
-/
import CodeSplit.Entry
import CodeSplit.Graph.Sources
import CodeSplit.Group.Styling
import CodeSplit.Group.Tiers

namespace CodeSplit

/-- What is to be split into bundles. -/
structure Project where
  components : List Component := []
  /-- Bundles that the user asks for, each a list of tags. -/
  bundles : List (List String) := []
  /-- The root document, if the application has one. -/
  document? : Option Path := none
deriving Repr, DecidableEq

/-- The entry modules of a project, and the problems found on the way. -/
structure Plan where
  entries : List Entry := []
  problems : List Diagnostic := []
deriving Repr, DecidableEq

/-- The tags of every entry module, in order. -/
def Plan.entryTags (plan : Plan) : List (List String) :=
  plan.entries.map Entry.tags

/-- Whether any problem is an error. -/
def Plan.hasErrors (plan : Plan) : Bool :=
  CodeSplit.hasErrors plan.problems

/-- The entry modules of a graph. -/
def Graph.planEntries (graph : Graph) (bundles : List (List String))
    (aborted : Bool) : Planning (List Entry) := do
  let (groups, walks) ← planGroups graph bundles {}
  Planning.note (.walksKept walks.size groups.length)
  if aborted then
    Planning.fail .aborted
  else
    Planning.noteAll (stylingMoves graph groups)
    let entries ←
      Planning.ofExcept
        (assembleEntries graph (splitByStyling graph groups))
    Planning.noteAll (entries.map Entry.event)
    return entries

/-- Plan a project whose sources are read from `source`. -/
def Project.planning (project : Project) (source : Source)
    (aborted : Bool) : Planning (List Entry) := do
  Planning.note (.planningStarted project.components.length)
  let components ←
    Planning.ofExcept (Component.normalizeAll project.components)
  let graph ← Graph.ofSources source aborted components project.document?
  graph.planEntries project.bundles aborted

/-- The plan of a project, or the fault that leaves none. -/
def Project.plan (project : Project) (source : Source) (aborted : Bool) :
    Except Fault Plan :=
  let planning := project.planning source aborted
  match planning.outcome with
  | .error fault => .error fault
  | .ok entries =>
      .ok { entries := entries, problems := planning.problems }

end CodeSplit
