/-
Module: CodeSplit.Diagnostic
Purpose: problems that leave a plan usable, or usable in part.
Main exports:
  Severity, Diagnostic, Diagnostic.render, hasErrors
-/
import CodeSplit.Source

namespace CodeSplit

/-- How serious a problem is. -/
inductive Severity where
  | warning
  | error
deriving Repr, DecidableEq

/-- The word for a severity. -/
def Severity.name : Severity → String
  | .warning => "warning"
  | .error => "error"

/-- The severity that a word stands for. -/
def Severity.ofName? : String → Option Severity
  | "warning" => some .warning
  | "error" => some .error
  | _ => none

/-- A problem that was found while planning. -/
structure Diagnostic where
  severity : Severity
  message : String
  /-- The tag that the problem is about. -/
  tag? : Option String := none
  /-- The file that the problem is about. -/
  file? : Option Path := none
deriving Repr, DecidableEq

namespace Diagnostic

/-- A bundle of the user names a tag that no component has.  Bundles are
numbered from one. -/
def unknownBundleTag (tag : String) (index : Nat) (bundle : List String) :
    Diagnostic where
  severity := .error
  message :=
    s!"Component tag \"{tag}\" is defined in bundle #{index + 1} " ++
      "[" ++ ", ".intercalate bundle ++ "] but no matching component was " ++
      "found within this app or its collections."
  tag? := some tag

/-- A component declares to need a tag that no component has. -/
def unknownDependency (component dependency : String) : Diagnostic where
  severity := .warning
  message :=
    s!"Component \"{component}\" declares a dependency on \"{dependency}\", " ++
      "which is not a known component; the dependency is ignored."
  tag? := some component

/-- The compiled output of a component cannot be read. -/
def unreadableComponent (tag : String) (path : Path) (cause : ReadError) :
    Diagnostic where
  severity := .error
  message :=
    s!"Unable to read compiled output of component \"{tag}\": " ++
      s!"{cause.message}. The component is excluded from this build."
  tag? := some tag
  file? := some path

/-- The root document cannot be read. -/
def unreadableDocument (path : Path) (cause : ReadError) : Diagnostic where
  severity := .error
  message := s!"Unable to read root document: {cause.message}"
  file? := some path

/-- The problem in one line. -/
def render (problem : Diagnostic) : String :=
  let line := s!"{problem.severity.name}: {problem.message}"
  match problem.file? with
  | some file => s!"{line} ({file.text})"
  | none => line

end Diagnostic

/-- Whether any of the problems is an error. -/
def hasErrors (problems : List Diagnostic) : Bool :=
  problems.any fun problem => problem.severity = .error

end CodeSplit
