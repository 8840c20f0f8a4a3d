/-
Module: CodeSplit.ProjectFile.Records
Purpose: the records that a project file holds.
Main exports:
  ComponentRecord.read, BundleRecord.read, ProjectRecord.read
-/
import CodeSplit.Plan
import CodeSplit.ProjectFile.Shape

namespace CodeSplit

/-!
A record is read from a table.  Its keys are checked in ascending order, each
with its value, and only then are keys missed; the first thing that is wrong is
the one that is reported.  A component or a bundle may also be a list of the
values that its keys have, in the order of the record's fields; fields at the
end that need no value may be left out, and items behind the last field do not
count.
-/

open Toml (Value)

/-- The key under which a moment is a table of its own. -/
def momentKey : String := "$__toml_private_datetime"

/-! ### Components -/

/-- A component as a project file describes it. -/
structure ComponentRecord where
  tag? : Option String := none
  source? : Option String := none
  dependencies : List String := []
  encapsulation : Encapsulation := .none
  styleModes : List String := []
  external : Bool := false
deriving Repr, DecidableEq

namespace ComponentRecord

/-- The keys of a component, in the order of its fields. -/
def keys : List String :=
  ["tag", "source", "dependencies", "encapsulation", "style-modes",
    "external"]

/-- Read the value of one key. -/
def set (record : ComponentRecord) :
    String × Value → Except Misfit ComponentRecord
  | ("tag", value) => do
      let tag ← textOf value
      return { record with tag? := some tag }
  | ("source", value) => do
      let source ← textOf value
      return { record with source? := some source }
  | ("dependencies", value) => do
      let dependencies ← textsOf value
      return { record with dependencies := dependencies }
  | ("encapsulation", value) => do
      let encapsulation ← encapsulationOf value
      return { record with encapsulation := encapsulation }
  | ("style-modes", value) => do
      let styleModes ← textsOf value
      return { record with styleModes := styleModes }
  | ("external", value) => do
      let external ← flagOf value
      return { record with external := external }
  | (other, _) => .error (.unknownField other keys)

/-- The component, once its tag and its source are known to be there. -/
def complete (record : ComponentRecord) (missing : String → Misfit) :
    Except Misfit Component :=
  match record.tag?, record.source? with
  | none, _ => .error (missing "tag")
  | some _, none => .error (missing "source")
  | some tag, some source =>
      .ok
        { tag := tag
          source := ⟨source⟩
          dependencies := record.dependencies
          encapsulation := record.encapsulation
          styleModes := record.styleModes
          isExternal := record.external }

/-- Read a component. -/
def read : Value → Except Misfit Component
  | .table entries => do
      let record ← (byKey entries).foldlM set {}
      record.complete .missingField
  | .array items => do
      let record ← (keys.zip items).foldlM set {}
      record.complete fun _ =>
        .tooShort items.length "struct RawComponent" keys.length
  | .moment _ => .error (.unknownField momentKey keys)
  | other => .error (.wrongKind other "struct RawComponent")

end ComponentRecord

/-! ### Bundles -/

namespace BundleRecord

/-- The keys of a bundle. -/
def keys : List String := ["components"]

/-- Read the value of one key. -/
def set (_ : List String) : String × Value → Except Misfit (List String)
  | ("components", value) => textsOf value
  | (other, _) => .error (.unknownField other keys)

/-- Read the tags of a bundle. -/
def read : Value → Except Misfit (List String)
  | .table entries => (byKey entries).foldlM set []
  | .array items => (keys.zip items).foldlM set []
  | .moment _ => .error (.unknownField momentKey keys)
  | other => .error (.wrongKind other "struct RawBundle")

end BundleRecord

/-! ### Projects -/

namespace ProjectRecord

/-- The keys of a project. -/
def keys : List String := ["root-document", "bundles", "components"]

/-- Read the value of one key. -/
def set (project : Project) : String × Value → Except Misfit Project
  | ("root-document", value) => do
      let document ← textOf value
      return { project with document? := some ⟨document⟩ }
  | ("bundles", value) => do
      let bundles ← itemsOf BundleRecord.read value
      return { project with bundles := bundles }
  | ("components", value) => do
      let components ← itemsOf ComponentRecord.read value
      return { project with components := components }
  | (other, _) => .error (.unknownField other keys)

/-- Read a project, with its paths and tags as they are written. -/
def read (entries : Toml.Table) : Except Misfit Project :=
  (byKey entries).foldlM set {}

end ProjectRecord

end CodeSplit
