/-
Module: CodeSplit.Component
Purpose: components as a project declares them, and their tags.
Main exports:
  Component, normalizeTag, Component.normalizeAll
-/
import CodeSplit.Encapsulation
import CodeSplit.Fault
import CodeSplit.Text.Blank
import CodeSplit.Text.LetterCase

namespace CodeSplit

/-- A component known to the build. -/
structure Component where
  /-- The name of its element. -/
  tag : String
  /-- The compiled output, which is searched for the tags of others. -/
  source : Path
  /-- Tags of components that it declares to need. -/
  dependencies : List String := []
  encapsulation : Encapsulation := .none
  /-- Style modes that it ships; none stands for the default mode. -/
  styleModes : List String := []
  /-- Whether it comes from a collection outside the application. -/
  isExternal : Bool := false
deriving Repr, DecidableEq

/-- The normal form of a tag: no blanks around it, and lower case. -/
def normalizeTag (tag : String) : String :=
  Text.lowerCase (Text.trim tag)

namespace Component

/-- The component with normal tags; declared tags that are empty are
dropped. -/
def normalize (component : Component) : Component :=
  { component with
    tag := normalizeTag component.tag
    dependencies :=
      (component.dependencies.map normalizeTag).filter (· ≠ "") }

/-- Normalize components in order.  Their tags may neither be empty nor be among
`seen`, the tags before them. -/
def normalizeFrom (seen : List String) :
    List Component → Except Fault (List Component)
  | [] => .ok []
  | component :: rest =>
      let normal := component.normalize
      if normal.tag = "" then .error (.emptyTag component.source)
      else if normal.tag ∈ seen then .error (.repeatedTag normal.tag)
      else
        match normalizeFrom (normal.tag :: seen) rest with
        | .error fault => .error fault
        | .ok others => .ok (normal :: others)

/-- Normalize the components of a project, whose tags have to be distinct and
not empty. -/
def normalizeAll (components : List Component) :
    Except Fault (List Component) :=
  normalizeFrom [] components

end Component

end CodeSplit
