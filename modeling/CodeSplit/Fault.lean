/-
Module: CodeSplit.Fault
Purpose: what stops a plan.
Main exports:
  ComponentId, Fault, Fault.message
-/
import CodeSplit.Path
import CodeSplit.Text.Quoted

namespace CodeSplit

/-- The number of a component in a graph.  Numbers follow the order of the
tags. -/
abbrev ComponentId := Nat

/-- A cause that leaves no plan.  The last five mean that the planner broke one
of its own rules. -/
inductive Fault where
  /-- The build was called off. -/
  | aborted
  /-- A component has an empty tag. -/
  | emptyTag (source : Path)
  /-- Two components have the same tag. -/
  | repeatedTag (tag : String)
  /-- A walk found more components than the graph has. -/
  | endlessWalk (starts : List String) (size : Nat)
  /-- A component would join a second group. -/
  | placedTwice (id : ComponentId) (group earlier : Nat)
  /-- A component would join a group that is not there. -/
  | noSuchGroup (group : Nat)
  /-- A finished group holds a component that an earlier one, or the same one,
  holds already. -/
  | sharedComponent (tag : String) (earlier group : Nat)
  /-- Finished groups leave out components of the application. -/
  | unplaced (tags : List String)
deriving Repr, DecidableEq

/-- The text that describes the cause. -/
def Fault.message : Fault → String
  | .aborted => "Build aborted"
  | .emptyTag source => s!"Component with source {source.text} has an empty tag"
  | .repeatedTag tag =>
      s!"Component tag \"{tag}\" is declared more than once"
  | .endlessWalk starts size =>
      s!"Closure expansion from {Text.quotedList starts} visited more " ++
        s!"components than the graph holds ({size})"
  | .placedTwice id group earlier =>
      s!"Component ComponentId({id}) placed in entry group {group} after " ++
        s!"already being placed in entry group {earlier}"
  | .noSuchGroup group => s!"Entry group {group} does not exist"
  | .sharedComponent tag earlier group =>
      s!"Component '{tag}' is placed in entry group {earlier} and " ++
        s!"entry group {group}"
  | .unplaced tags =>
      s!"Components missing from every entry group: {Text.quotedList tags}"

end CodeSplit
