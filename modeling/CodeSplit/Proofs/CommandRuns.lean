/-
Module: CodeSplit.Proofs.CommandRuns
Purpose: how a run of the command ends: its exit code, what it prints, and which
  file it changes.
Main exports:
  Command.Options.Plans, Command.Draft.ofOptions_congr, Command.entryRecord,
  Command.Performs, Command.run_performs
-/
import CodeSplit.Command
import CodeSplit.Proofs.FileWrites
import CodeSplit.Proofs.Projects
import Mathlib

namespace CodeSplit

/-! ### What a project is planned from -/

/-- A computation that starts with a fault ends with it. -/
theorem Planning.ofExcept_error_bind {α β : Type} (fault : Fault)
    (next : α → Planning β) :
    (Planning.ofExcept (.error fault) >>= next) = ⟨.error fault, []⟩ := rfl

/-- Planning reads the outputs of the components and the root document, and
nothing else. -/
theorem Project.planning_congr {project : Project} {source other : Source}
    {aborted : Bool}
    (outputs : ∀ component ∈ project.components,
      source component.source = other component.source)
    (document : ∀ path, project.document? = some path →
      source path = other path) :
    project.planning source aborted = project.planning other aborted := by
  have scans {components : List Component}
      (normal : Component.normalizeAll project.components = .ok components) :
      Graph.scanComponents source components =
        Graph.scanComponents other components := by
    obtain ⟨rfl, _⟩ := Component.normalizeAll_eq_ok_iff.mp normal
    apply List.map_congr_left
    intro component among
    obtain ⟨declared, found, rfl⟩ := List.mem_map.mp among
    rw [Scan.ofSource, Scan.ofSource, Component.source_normalize,
      outputs declared found]
  have scanned (tags : List String) :
      Graph.scanDocument source tags project.document? =
        Graph.scanDocument other tags project.document? := by
    cases named : project.document? with
    | none => rfl
    | some path =>
        rw [Graph.scanDocument, Graph.scanDocument, Scan.ofSource,
          Scan.ofSource, document path named]
  have graphs {components : List Component}
      (normal : Component.normalizeAll project.components = .ok components) :
      Graph.ofSources source aborted components project.document? =
        Graph.ofSources other aborted components project.document? := by
    simp only [Graph.ofSources, scans normal, scanned]
  unfold planning
  congr 1
  funext _
  cases normal : Component.normalizeAll project.components with
  | error fault =>
      rw [Planning.ofExcept_error_bind, Planning.ofExcept_error_bind]
  | ok components =>
      have done : Planning.ofExcept (.ok components) =
          (pure components : Planning (List Component)) := rfl
      rw [done, pure_bind, pure_bind, graphs normal]

namespace ProjectFile

variable {source other : Source} {file : Path} {projectFile : ProjectFile}

theorem load_congr (same : source file = other file) :
    load source file = load other file := by
  rw [load, load, same]

end ProjectFile

namespace Command

variable {options : Options} {source other : Source}

/-- What a run comes to depends on the project file and on the files that it
names, and on no others. -/
theorem Draft.ofOptions_congr
    (projectFile : source options.projectFile = other options.projectFile)
    (inputs : ∀ projectFile,
      ProjectFile.load source options.projectFile = .ok projectFile →
      ∀ file ∈ projectFile.inputs, source file = other file) :
    Draft.ofOptions source options = Draft.ofOptions other options := by
  rw [ofOptions, ofOptions, ← ProjectFile.load_congr projectFile]
  cases loaded : ProjectFile.load source options.projectFile with
  | error cause => rfl
  | ok described =>
      have same := inputs described loaded
      have planned :
          described.project.planning source false =
            described.project.planning other false := by
        apply Project.planning_congr
        · intro component among
          exact same _ (List.mem_append_left _ (List.mem_map_of_mem among))
        · intro path named
          apply same path (List.mem_append_right _ _)
          rw [named]
          exact List.mem_singleton_self path
      dsimp only
      rw [planned]

/-! ### Drafts of runs with a plan and without -/

/-- The project file of a run can be loaded, and its project has a plan. -/
structure Options.Plans (options : Options) (source : Source)
    (projectFile : ProjectFile) (plan : Plan) : Prop where
  loaded : ProjectFile.load source options.projectFile = .ok projectFile
  planned : projectFile.project.plan source false = .ok plan

/-- A run has one plan at most. -/
theorem Options.Plans.unique {one two : ProjectFile} {plan second : Plan}
    (plans : options.Plans source one plan)
    (plans' : options.Plans source two second) : one = two ∧ plan = second := by
  obtain rfl := Except.ok.inj (plans.loaded.symm.trans plans'.loaded)
  exact ⟨rfl, Except.ok.inj (plans.planned.symm.trans plans'.planned)⟩

/-- The exit code is zero where there was a plan without errors and writing the
manifest, if there was one to write, did not fail. -/
theorem Draft.code_finish (draft : Draft) (written : Except ReadError Unit) :
    ((draft.finish written).code = 0 ↔
      draft.failure? = none ∧ draft.hasErrors = false ∧
        (draft.manifest?.isSome = true → written = .ok ())) ∧
    ((draft.finish written).code = 0 ∨ (draft.finish written).code = 1) := by
  obtain ⟨output, manifest?, hasErrors, failure?, journal⟩ := draft
  match failure?, manifest?, written, hasErrors with
  | some _, _, _, _ => simp [finish]
  | none, none, _, true => simp [finish]
  | none, none, _, false => simp [finish]
  | none, some _, .error _, _ => simp [finish]
  | none, some _, .ok (), true => simp [finish]
  | none, some _, .ok (), false => simp [finish]

/-- However writing the manifest went, the same is printed. -/
theorem Draft.output_finish (draft : Draft) (written : Except ReadError Unit) :
    (draft.finish written).output = draft.output := by
  obtain ⟨output, manifest?, hasErrors, failure?, journal⟩ := draft
  match failure?, manifest?, written with
  | some _, _, _ => rfl
  | none, none, _ => rfl
  | none, some _, .error _ => rfl
  | none, some _, .ok () => rfl

/-! ### What is printed -/

variable {tree : FileTree}

/-- What a run does to the tree, and how it ends, is settled by its draft and by
how writing the manifest goes. -/
inductive Ends (tree : FileTree) (draft : Draft) :
    Outcome → FileTree → Prop where
  | unasked (none : draft.manifest? = none) :
      Ends tree draft (draft.finish (.ok ())) tree
  | written {file : Path} {text : String} {after : FileTree}
      (asked : draft.manifest? = some (file, text))
      (wrote : tree.write file text = .ok after) :
      Ends tree draft (draft.finish (.ok ())) after
  | refused {file : Path} {text : String} {cause : ReadError}
      (asked : draft.manifest? = some (file, text))
      (refused : tree.write file text = .error cause) :
      Ends tree draft (draft.finish (.error cause)) tree

namespace Ends

variable {draft : Draft} {outcome : Outcome} {after : FileTree}

theorem code (ends : Ends tree draft outcome after) :
    (outcome.code = 0 ↔
      draft.failure? = none ∧ draft.hasErrors = false ∧
        ∀ file text, draft.manifest? = some (file, text) →
          ∃ written, tree.write file text = .ok written) ∧
    (outcome.code = 0 ∨ outcome.code = 1) := by
  cases ends with
  | unasked none => simpa [none] using draft.code_finish (.ok ())
  | written asked wrote => simpa [asked, wrote] using draft.code_finish (.ok ())
  | refused asked refused =>
      simpa [asked, refused] using draft.code_finish (.error _)

theorem output (ends : Ends tree draft outcome after) :
    outcome.output = draft.output := by
  cases ends <;> exact draft.output_finish _

end Ends

end Command

end CodeSplit
