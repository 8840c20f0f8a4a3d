/-
Module: CodeSplit.ProjectFile
Purpose: projects that are described by a file.
Main exports:
  ProjectFile, ProjectFile.ofText, ProjectFile.load
-/
import CodeSplit.ProjectFile.Records
import CodeSplit.Toml.Document

namespace CodeSplit

/-!
A project file is a TOML document.  Its paths are seen from the directory that
it lies in, and its tags are brought into their normal form when it is read.
Unlike declared dependencies, tags of bundles are kept when they are empty.
-/

/-- The name of the file that describes a project unless another is given. -/
def defaultProjectFile : Path := ⟨"tessera.toml"⟩

/-- A project with the directory that its paths are seen from. -/
structure ProjectFile where
  directory : Path
  project : Project
deriving Repr, DecidableEq

/-! ### What can go wrong -/

/-- Why a text does not describe a project. -/
inductive ProjectFault where
  /-- It is no TOML document. -/
  | notToml
  /-- It is a TOML document of another shape. -/
  | misshapen (misfit : Misfit)
  /-- Its components cannot be planned. -/
  | unusable (fault : Fault)
deriving Repr

/-- The texts that describe the cause, the outermost first. -/
def ProjectFault.messages : ProjectFault → List String
  | .notToml => ["Failed to parse TOML", "TOML parse error"]
  | .misshapen misfit =>
      ["Failed to parse TOML", misfit.reason?.getD "TOML parse error"]
  | .unusable fault => [fault.message]

/-- Whether the last of the texts tells more than that the text was not
understood. -/
def ProjectFault.isDescribed : ProjectFault → Bool
  | .notToml => false
  | .misshapen misfit => misfit.reason?.isSome
  | .unusable _ => true

/-- Why a project cannot be loaded from a file. -/
inductive LoadFault where
  /-- The file cannot be read. -/
  | unreadable (file : Path) (cause : ReadError)
  /-- The text of the file does not describe a project. -/
  | invalid (file : Path) (cause : ProjectFault)
deriving Repr

/-- The texts that describe the cause, the outermost first. -/
def LoadFault.messages : LoadFault → List String
  | .unreadable file cause =>
      [s!"Failed to read config file {file.text}", cause.message]
  | .invalid file cause =>
      s!"Invalid config file {file.text}" :: cause.messages

/-! ### Reading -/

namespace Project

/-- The project with its paths seen from a directory. -/
def resolve (project : Project) (directory : Path) : Project :=
  { project with
    document? := project.document?.map directory.join
    components := project.components.map fun component =>
      { component with source := directory.join component.source } }

/-- The project with all tags in their normal form. -/
def normalize (project : Project) : Except Fault Project :=
  match Component.normalizeAll project.components with
  | .error fault => .error fault
  | .ok components =>
      .ok
        { project with
          components := components
          bundles := project.bundles.map (·.map normalizeTag) }

end Project

namespace ProjectFile

/-- The project that a text describes, with paths seen from a directory. -/
def ofText (text : String) (directory : Path) :
    Except ProjectFault ProjectFile :=
  match Toml.parse? text with
  | none => .error .notToml
  | some table =>
      match ProjectRecord.read table with
      | .error misfit => .error (.misshapen misfit)
      | .ok written =>
          match (written.resolve directory).normalize with
          | .error fault => .error (.unusable fault)
          | .ok project =>
              .ok { directory := directory, project := project }

/-- The directory that a file lies in. -/
def directoryOf (file : Path) : Path :=
  file.parent?.getD ⟨""⟩

/-- The project that a file describes. -/
def load (source : Source) (file : Path) : Except LoadFault ProjectFile :=
  match source file with
  | .error cause => .error (.unreadable file cause)
  | .ok text =>
      match ofText text (directoryOf file) with
      | .error cause => .error (.invalid file cause)
      | .ok projectFile => .ok projectFile

/-- What the log tells about a project that was loaded from a file. -/
def loadedEvent (projectFile : ProjectFile) (file : Path) : Event :=
  .projectLoaded projectFile.project.components.length
    projectFile.project.bundles.length file

/-- The files that planning reads. -/
def inputs (projectFile : ProjectFile) : List Path :=
  projectFile.project.components.map (·.source) ++
    projectFile.project.document?.toList

end ProjectFile

end CodeSplit
