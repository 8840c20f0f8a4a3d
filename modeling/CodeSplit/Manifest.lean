/-
Module: CodeSplit.Manifest
Purpose: the manifest of a build, for tools that inspect how it was split.
Main exports:
  Manifest, Manifest.ofEntries, Manifest.ofPlan?, Manifest.render
-/
import CodeSplit.Json.Printer
import CodeSplit.Plan

namespace CodeSplit

/-! ### What a manifest holds -/

/-- The program that planned a build. -/
structure Compiler where
  name : String := "tessera"
  version : String := "0.1.0"
deriving Repr, DecidableEq

/-- A component of an entry, as the manifest lists it. -/
structure ManifestPart where
  tag : String
  dependents : List String
deriving Repr, DecidableEq

/-- A bundle, as the manifest lists it. -/
structure ManifestBundle where
  components : List String
  /-- The files that the bundle is made from. -/
  inputFiles : List String
  /-- Style modes, unless there is only the default one. -/
  modes? : Option (List String)
deriving Repr, DecidableEq

/-- A summary of a plan. -/
structure Manifest where
  compiler : Compiler := {}
  entries : List (List ManifestPart)
  bundles : List ManifestBundle
  problems : List Diagnostic
deriving Repr, DecidableEq

namespace Manifest

/-! ### From a plan -/

/-- Texts in ascending order. -/
def sortTexts (texts : List String) : List String :=
  texts.mergeSort fun one other => one ≤ other

/-- How a file is shown: from `root?` on, if it lies below that directory, and
with slashes between its parts. -/
def displayPath (root? : Option Path) (path : Path) : String :=
  let shown := (root?.bind path.stripBase?).getD path
  String.ofList
    (shown.text.toList.map fun c => if c = '\\' then '/' else c)

/-- The components of an entry, by tag. -/
def partsOf (entry : Entry) : List ManifestPart :=
  (entry.parts.map fun part =>
    { tag := part.tag, dependents := part.dependents }).mergeSort
      fun one other => one.tag ≤ other.tag

/-- Whether an entry may stand before another in the manifest: entries are
ordered by their first tags, and those without components come first. -/
def precedes (one other : List ManifestPart) : Bool :=
  match one, other with
  | [], _ => true
  | _ :: _, [] => false
  | first :: _, second :: _ => first.tag ≤ second.tag

/-- The style modes that the manifest shows for an entry. -/
def modesOf? (entry : Entry) : Option (List String) :=
  match entry.modes with
  | [] => none
  | [mode] => if mode = defaultMode then none else some [mode]
  | several => some (sortTexts several)

/-- The bundle of an entry. -/
def bundleOf (root? : Option Path) (entry : Entry) : ManifestBundle where
  components := sortTexts entry.tags
  inputFiles :=
    sortTexts (entry.parts.map fun part => displayPath root? part.source)
  modes? := modesOf? entry

/-- The manifest of entry modules.  Files are shown from `root?` on. -/
def ofEntries (entries : List Entry) (problems : List Diagnostic)
    (root? : Option Path) : Manifest where
  entries := (entries.map partsOf).mergeSort precedes
  bundles := entries.map (bundleOf root?)
  problems := problems

/-- The manifest of a plan.  A plan with errors has none. -/
def ofPlan? (plan : Plan) (root? : Option Path) : Option Manifest :=
  if plan.hasErrors then none
  else some (ofEntries plan.entries plan.problems root?)

/-! ### As text -/

/-- A list of texts as JSON. -/
def textsJson (texts : List String) : Json :=
  .array (texts.map .text)

/-- The compiler as JSON. -/
def compilerJson (compiler : Compiler) : Json :=
  .object
    [("name", .text compiler.name), ("version", .text compiler.version)]

/-- A component of an entry as JSON. -/
def partJson (part : ManifestPart) : Json :=
  .object
    [("tag", .text part.tag), ("dependencyOf", textsJson part.dependents)]

/-- An input file as JSON. -/
def fileJson (file : String) : Json :=
  .object [("filePath", .text file)]

/-- A bundle as JSON. -/
def bundleJson (bundle : ManifestBundle) : Json :=
  .object
    ([("components", textsJson bundle.components),
      ("inputFiles", .array (bundle.inputFiles.map fileJson))] ++
      (bundle.modes?.map fun modes => ("modes", textsJson modes)).toList)

/-- A problem as JSON. -/
def problemJson (problem : Diagnostic) : Json :=
  .object
    ([("level", .text problem.severity.name),
      ("message", .text problem.message)] ++
      (problem.tag?.map fun tag => ("tag", .text tag)).toList ++
      (problem.file?.map fun file => ("file", .text file.text)).toList)

/-- The manifest as JSON. -/
def toJson (manifest : Manifest) : Json :=
  .object
    [("compiler", compilerJson manifest.compiler),
     ("entries", .array (manifest.entries.map fun entry =>
       .array (entry.map partJson))),
     ("bundles", .array (manifest.bundles.map bundleJson)),
     ("diagnostics", .array (manifest.problems.map problemJson))]

/-- The text of the manifest. -/
def render (manifest : Manifest) : String :=
  manifest.toJson.render

end Manifest

end CodeSplit
