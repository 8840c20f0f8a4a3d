/-
Module: CodeSplit.Proofs.ManifestReading
Purpose: manifests are read back from their texts, so that no text is that of
  two manifests.
Main exports:
  Manifest.ofJson?, Manifest.read?, Manifest.ofJson?_toJson,
  Manifest.render_lossless
-/
import CodeSplit.Manifest
import CodeSplit.Proofs.JsonPrinting

namespace CodeSplit

/-!
Members of objects are found by their names, and others do not matter.  A member
that need not be there may also be `null`.
-/

/-! ### Members and items -/

namespace Json

variable {α : Type}

/-- The text that a value is. -/
def text? : Json → Option String
  | .text value => some value
  | _ => none

/-- The items of an array, each read in the same way. -/
def items? (read : Json → Option α) : Json → Option (List α)
  | .array items => items.mapM read
  | _ => none

/-- The value of a member of an object. -/
def member? (name : String) : Json → Option Json
  | .object members => members.lookup name
  | _ => none

/-- Read a member that has to be there. -/
def required? (name : String) (read : Json → Option α) (value : Json) :
    Option α :=
  (value.member? name).bind read

/-- Read a member that need not be there. -/
def optional? (name : String) (read : Json → Option α) (value : Json) :
    Option (Option α) :=
  match value.member? name with
  | none | some .null => some none
  | some given => (read given).map some

/-- Items that are each read back are read back together. -/
theorem items?_map {write : α → Json} {read : Json → Option α}
    (inverse : ∀ item, read (write item) = some item) (items : List α) :
    (Json.array (items.map write)).items? read = some items := by
  rw [items?]
  induction items with
  | nil => rfl
  | cons item rest ih =>
      rw [List.map_cons, List.mapM_cons, inverse, ih]
      rfl

end Json

namespace Manifest

/-! ### Reading -/

/-- The list of texts that a value is. -/
def textsOf? : Json → Option (List String) :=
  Json.items? Json.text?

/-- The compiler that a value describes. -/
def compilerOf? (value : Json) : Option Compiler := do
  let name ← value.required? "name" Json.text?
  let version ← value.required? "version" Json.text?
  return { name := name, version := version }

/-- The component of an entry that a value describes. -/
def partOf? (value : Json) : Option ManifestPart := do
  let tag ← value.required? "tag" Json.text?
  let dependents ← value.required? "dependencyOf" textsOf?
  return { tag := tag, dependents := dependents }

/-- The input file that a value describes. -/
def fileOf? (value : Json) : Option String :=
  value.required? "filePath" Json.text?

/-- The bundle that a value describes. -/
def bundleOf? (value : Json) : Option ManifestBundle := do
  let components ← value.required? "components" textsOf?
  let inputFiles ← value.required? "inputFiles" (Json.items? fileOf?)
  let modes? ← value.optional? "modes" textsOf?
  return {
    components := components
    inputFiles := inputFiles
    modes? := modes? }

/-- The severity that a value names. -/
def severityOf? (value : Json) : Option Severity :=
  value.text?.bind Severity.ofName?

/-- The problem that a value describes. -/
def problemOf? (value : Json) : Option Diagnostic := do
  let severity ← value.required? "level" severityOf?
  let message ← value.required? "message" Json.text?
  let tag? ← value.optional? "tag" Json.text?
  let file? ← value.optional? "file" Json.text?
  return {
    severity := severity
    message := message
    tag? := tag?
    file? := file?.map Path.mk }

/-- The manifest that a value describes. -/
def ofJson? (value : Json) : Option Manifest := do
  let compiler ← value.required? "compiler" compilerOf?
  let entries ← value.required? "entries" (Json.items? (Json.items? partOf?))
  let bundles ← value.required? "bundles" (Json.items? bundleOf?)
  let problems ← value.required? "diagnostics" (Json.items? problemOf?)
  return {
    compiler := compiler
    entries := entries
    bundles := bundles
    problems := problems }

/-- The manifest that a text describes. -/
def read? (text : String) : Option Manifest :=
  (Json.read? text).bind ofJson?

/-! ### What was shown is read back -/

theorem textsOf?_textsJson (texts : List String) :
    textsOf? (textsJson texts) = some texts := by
  have inverse (text : String) : (Json.text text).text? = some text := rfl
  exact Json.items?_map inverse texts

theorem compilerOf?_compilerJson (compiler : Compiler) :
    compilerOf? (compilerJson compiler) = some compiler := rfl

theorem partOf?_partJson (part : ManifestPart) :
    partOf? (partJson part) = some part := by
  have tag : (partJson part).required? "tag" Json.text? = some part.tag := rfl
  have dependents : (partJson part).required? "dependencyOf" textsOf? =
      some part.dependents :=
    textsOf?_textsJson part.dependents
  rw [partOf?, tag, dependents]
  rfl

theorem fileOf?_fileJson (file : String) :
    fileOf? (fileJson file) = some file := rfl

theorem bundleOf?_bundleJson (bundle : ManifestBundle) :
    bundleOf? (bundleJson bundle) = some bundle := by
  have components : (bundleJson bundle).required? "components" textsOf? =
      some bundle.components :=
    textsOf?_textsJson bundle.components
  have inputFiles :
      (bundleJson bundle).required? "inputFiles" (Json.items? fileOf?) =
        some bundle.inputFiles :=
    Json.items?_map fileOf?_fileJson bundle.inputFiles
  have modes : (bundleJson bundle).optional? "modes" textsOf? =
      some bundle.modes? := by
    obtain ⟨_, _, modes?⟩ := bundle
    cases modes? with
    | none => rfl
    | some modes => exact congrArg (Option.map some) (textsOf?_textsJson modes)
  rw [bundleOf?, components, inputFiles, modes]
  rfl

theorem severityOf?_name (severity : Severity) :
    severityOf? (.text severity.name) = some severity := by
  cases severity <;> rfl

theorem problemOf?_problemJson (problem : Diagnostic) :
    problemOf? (problemJson problem) = some problem := by
  have severity : (problemJson problem).required? "level" severityOf? =
      some problem.severity :=
    severityOf?_name problem.severity
  obtain ⟨level, message, tag?, file?⟩ := problem
  rw [problemOf?, severity]
  cases tag? <;> cases file? <;> rfl

theorem ofJson?_toJson (manifest : Manifest) :
    ofJson? manifest.toJson = some manifest := by
  have compiler : manifest.toJson.required? "compiler" compilerOf? =
      some manifest.compiler :=
    compilerOf?_compilerJson manifest.compiler
  have entries :
      manifest.toJson.required? "entries" (Json.items? (Json.items? partOf?)) =
        some manifest.entries :=
    Json.items?_map (Json.items?_map partOf?_partJson) manifest.entries
  have bundles : manifest.toJson.required? "bundles" (Json.items? bundleOf?) =
      some manifest.bundles :=
    Json.items?_map bundleOf?_bundleJson manifest.bundles
  have problems :
      manifest.toJson.required? "diagnostics" (Json.items? problemOf?) =
        some manifest.problems :=
    Json.items?_map problemOf?_problemJson manifest.problems
  rw [ofJson?, compiler, entries, bundles, problems]
  rfl

/-- Reading the text of a manifest gives back the manifest. -/
theorem read?_render (manifest : Manifest) :
    read? manifest.render = some manifest := by
  rw [read?, render, Json.read?_render, Option.bind_some, ofJson?_toJson]

/-- The text of a manifest loses nothing: it is JSON, the manifest is read from
it, and no other manifest has the same text. -/
theorem render_lossless (manifest : Manifest) :
    (∃ value, Json.Denotes manifest.render value) ∧
      (∀ value, Json.Denotes manifest.render value →
        ofJson? value = some manifest) ∧
      read? manifest.render = some manifest ∧
      ∀ other : Manifest,
        other.render = manifest.render → other = manifest := by
  have denotes := Json.denotes_render manifest.toJson
  refine ⟨⟨_, denotes⟩, ?_, read?_render manifest, ?_⟩
  · intro value denoted
    obtain rfl := denotes.unique denoted
    exact ofJson?_toJson manifest
  · intro other same
    have read := read?_render other
    rw [same, read?_render] at read
    exact (Option.some.inj read).symm

end Manifest

end CodeSplit
