/-
Module: CodeSplit.Group.Styling
Purpose: groups whose members all have the same encapsulation.
Main exports:
  majority, splitByStyling, stylingMoves
-/
import CodeSplit.Graph.Basic
import CodeSplit.Group.Basic

namespace CodeSplit

/-!
A bundle is loaded with one way of styling, so a group that mixes several keeps
only its largest part.  The members it sheds are pooled by encapsulation over
all groups, and each pool becomes a group of its own.
-/

/-- The members with an encapsulation, in their order. -/
def membersWith (graph : Graph) (mode : Encapsulation) (group : Group) :
    Group :=
  group.filter fun member => graph.encapsulation member.id = mode

/-- The encapsulation that most members have; among several, the one that needs
the least machinery. -/
def majority (graph : Graph) (group : Group) : Encapsulation :=
  Encapsulation.all.foldl
    (fun kept mode =>
      if (membersWith graph kept group).length <
          (membersWith graph mode group).length
      then mode else kept)
    .none

/-- What is left of each group that has members. -/
def keptGroups (graph : Graph) (groups : List Group) : List Group :=
  (groups.filter (!·.isEmpty)).map fun group =>
    membersWith graph (majority graph group) group

/-- What the groups shed with an encapsulation. -/
def shedWith (graph : Graph) (mode : Encapsulation) (groups : List Group) :
    Group :=
  groups.flatMap fun group =>
    if majority graph group = mode then [] else membersWith graph mode group

/-- The members whose components are neither among `placed` nor members
already. -/
def firstOccurrences (placed : List ComponentId) : Group → Group
  | [] => []
  | member :: rest =>
      if member.id ∈ placed then firstOccurrences placed rest
      else member :: firstOccurrences (member.id :: placed) rest

/-- The groups of what was shed with each of the encapsulations, where no
component among `placed` occurs again. -/
def overflowGroups (graph : Graph) (groups : List Group)
    (placed : List ComponentId) : List Encapsulation → List Group
  | [] => []
  | mode :: modes =>
      let pool := firstOccurrences placed (shedWith graph mode groups)
      let others :=
        overflowGroups graph groups (Group.ids pool ++ placed) modes
      if pool.isEmpty then others else Group.sorted pool :: others

/-- The groups, each with one encapsulation, in order. -/
def splitByStyling (graph : Graph) (groups : List Group) : List Group :=
  let kept := keptGroups graph groups
  sortGroups (kept ++
    overflowGroups graph groups (kept.flatMap Group.ids) Encapsulation.all)

/-- What the log tells about the members that a group sheds. -/
def stylingMovesOf (graph : Graph) (group : Group) : List Event :=
  let kept := majority graph group
  Encapsulation.all.filterMap fun mode =>
    let shed := membersWith graph mode group
    if mode = kept || shed.isEmpty then none
    else some (.overflowMoved (graph.tagsOf (Group.ids shed)) kept mode)

/-- What the log tells about splitting groups. -/
def stylingMoves (graph : Graph) (groups : List Group) : List Event :=
  groups.flatMap (stylingMovesOf graph)

end CodeSplit
