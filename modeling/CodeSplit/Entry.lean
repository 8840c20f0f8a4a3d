/-
Module: CodeSplit.Entry
Purpose: entry modules, which tell a bundler what to emit for each group.
Main exports:
  EntryPart, Entry, entryKey, entryModes, entryEncapsulations, Entry.ofGroup,
  checkGroups, assembleEntries
-/
import CodeSplit.Graph.Basic
import CodeSplit.Group.Basic

namespace CodeSplit

/-! ### What an entry module holds -/

/-- The style mode of components that name none. -/
def defaultMode : String := "$"

/-- A component in an entry module. -/
structure EntryPart where
  tag : String
  /-- The compiled output that the bundler reads. -/
  source : Path
  /-- The tags of the components that caused it to be here. -/
  dependents : List String := []
deriving Repr, DecidableEq

/-- A bundle to emit. -/
structure Entry where
  key : String
  parts : List EntryPart
  /-- The style modes to build the bundle for. -/
  modes : List String
  encapsulations : List Encapsulation
  /-- Whether its styles are built with scoped selectors too. -/
  requiresScopedStyles : Bool
deriving Repr, DecidableEq

/-- The tags of the components in an entry module. -/
def Entry.tags (entry : Entry) : List String :=
  entry.parts.map (·.tag)

/-- The name that an entry module is emitted under. -/
def entryKey (tags : List String) : String :=
  "entry:" ++
    ".".intercalate (tags.mergeSort fun one other => one ≤ other)

/-- The style modes of a bundle, from those of its components.  The default mode
stays only where no other is named. -/
def entryModes (modes : List String) : List String :=
  match ascending modes with
  | [] => [defaultMode]
  | [mode] => [mode]
  | several => several.filter (· ≠ defaultMode)

/-- The ways to build the styles of a bundle, from the encapsulations of its
components.  Where there is a shadow root, scoped styles are built too, for
browsers without one. -/
def entryEncapsulations (modes : List Encapsulation) : List Encapsulation :=
  if modes.isEmpty then [.none]
  else if .shadow ∈ modes then ascending (modes ++ [.scoped])
  else ascending modes

/-! ### From groups to entry modules -/

/-- A member of a group as a part of an entry module. -/
def EntryPart.ofMember (graph : Graph) (member : Member) : EntryPart where
  tag := graph.tag member.id
  source := ((graph.component? member.id).map (·.source)).getD ⟨""⟩
  dependents := ascending (graph.tagsOf member.dependents)

/-- The entry module of a group. -/
def Entry.ofGroup (graph : Graph) (group : Group) : Entry :=
  let parts :=
    (group.map (EntryPart.ofMember graph)).mergeSort
      fun one other => one.tag ≤ other.tag
  let components := (Group.ids group).filterMap graph.component?
  let encapsulations :=
    entryEncapsulations (components.map (·.encapsulation))
  { key := entryKey (parts.map (·.tag))
    parts := parts
    modes := entryModes (components.flatMap (·.styleModes))
    encapsulations := encapsulations
    requiresScopedStyles :=
      encapsulations.any Encapsulation.requiresScopedStyles }

/-- The first component that occurs again, with the groups of both
occurrences. -/
def firstShared? (seen : List (ComponentId × Nat)) :
    List (ComponentId × Nat) → Option (ComponentId × Nat × Nat)
  | [] => none
  | (id, index) :: rest =>
      match seen.lookup id with
      | some earlier => some (id, earlier, index)
      | none => firstShared? ((id, index) :: seen) rest

/-- Every occurrence of a component in the groups, with the index of the
group. -/
def occurrences (groups : List Group) : List (ComponentId × Nat) :=
  groups.zipIdx.flatMap fun (group, index) =>
    (Group.ids group).map fun id => (id, index)

/-- Check that no component occurs twice in the groups and that every component
of the application occurs. -/
def checkGroups (graph : Graph) (groups : List Group) :
    Except Fault Unit :=
  let placed := occurrences groups
  match firstShared? [] placed with
  | some (id, earlier, index) =>
      .error (.sharedComponent (graph.tag id) earlier index)
  | none =>
      let missing := graph.ids.filter fun id =>
        !graph.isExternal id && (placed.lookup id).isNone
      if missing.isEmpty then .ok ()
      else .error (.unplaced (graph.tagsOf missing))

/-- Check the groups and make an entry module of each one that has members. -/
def assembleEntries (graph : Graph) (groups : List Group) :
    Except Fault (List Entry) :=
  match checkGroups graph groups with
  | .error fault => .error fault
  | .ok () =>
      .ok ((groups.filter (!·.isEmpty)).map (Entry.ofGroup graph))

/-- What the log tells about an entry module. -/
def Entry.event (entry : Entry) : Event :=
  .entryAssembled entry.key entry.modes entry.requiresScopedStyles

end CodeSplit
