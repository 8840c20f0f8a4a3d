/-
Module: CodeSplit.Command
Purpose: what the command does with a tree of files.
Main exports:
  Command.Draft, Command.Draft.ofOptions, Command.Outcome, Command.run
-/
import CodeSplit.Command.Arguments
import CodeSplit.Command.Report
import CodeSplit.FileTree
import CodeSplit.Manifest

namespace CodeSplit.Command

/-!
A run reads files, prints one line for every entry module, and may write the
manifest at the end.  Everything up to that point depends on the files alone; it
is gathered in a draft, which is finished by how writing the manifest went.  So
a run can be described both on a tree of files and on the files of a machine.

Printing is taken to succeed.  A command whose output cannot be printed stops with
an error in place of everything that comes later; nothing here describes that.
-/

/-! ### Drafts -/

/-- What a run comes to before it writes the manifest. -/
structure Draft where
  /-- What is printed. -/
  output : String := ""
  /-- The manifest, if one is to be written. -/
  manifest? : Option (Path × String) := none
  /-- Whether the plan has errors. -/
  hasErrors : Bool := false
  /-- What kept the run from making a plan. -/
  failure? : Option Failure := none
  /-- What the log tells. -/
  journal : List Event := []

/-- The line that is printed for an entry module. -/
def entryLine (entry : Entry) : String :=
  let modes := ",".intercalate entry.modes
  let encapsulations :=
    ",".intercalate (entry.encapsulations.map Encapsulation.name)
  s!"{entry.key} modes={modes} encapsulation={encapsulations}\n"

/-- What is printed for a plan. -/
def planOutput (plan : Plan) : String :=
  "".intercalate (plan.entries.map entryLine)

/-- The draft of a run that has made a plan. -/
def Draft.ofPlan (options : Options) (projectFile : ProjectFile)
    (journal : List Event) (plan : Plan) : Draft :=
  let rendered? :=
    (Manifest.ofPlan? plan (some projectFile.directory)).map Manifest.render
  let manifest? := do return (← options.manifest?, ← rendered?)
  let skipped :=
    if options.manifest?.isSome && rendered?.isNone then
      [Event.manifestSkipped]
    else
      []
  { output := planOutput plan
    manifest? := manifest?
    hasErrors := plan.hasErrors
    journal := journal ++ skipped }

/-- The draft of a run whose files are read from a source. -/
def Draft.ofOptions (source : Source) (options : Options) : Draft :=
  match ProjectFile.load source options.projectFile with
  | .error cause => { failure? := some (.notLoaded cause) }
  | .ok projectFile =>
      let planning := projectFile.project.planning source false
      let journal :=
        projectFile.loadedEvent options.projectFile :: planning.journal
      match planning.outcome with
      | .error cause =>
          { failure? := some (.notPlanned options.projectFile cause)
            journal := journal }
      | .ok entries =>
          .ofPlan options projectFile journal
            { entries := entries, problems := planning.problems }

/-! ### Outcomes -/

/-- What a run leaves behind, apart from files. -/
structure Outcome where
  /-- Zero for success, one for failure, two for misuse. -/
  code : Nat := 0
  /-- What is printed. -/
  output : String := ""
  /-- Why the run failed. -/
  report : String := ""
  /-- What the log tells. -/
  journal : List Event := []
deriving Repr, DecidableEq

/-- Finish a run by how writing its manifest went, if it has one. -/
def Draft.finish (draft : Draft) (written : Except ReadError Unit) : Outcome :=
  match draft.failure?, draft.manifest?, written with
  | some failure, _, _ =>
      { code := 1
        output := draft.output
        report := report failure
        journal := draft.journal }
  | none, some (file, _), .error cause =>
      { code := 1
        output := draft.output
        report := report (.notWritten file cause)
        journal := draft.journal }
  | none, some (file, _), .ok () =>
      { code := if draft.hasErrors then 1 else 0
        output := draft.output
        journal := draft.journal ++ [.manifestWritten file] }
  | none, none, _ =>
      { code := if draft.hasErrors then 1 else 0
        output := draft.output
        journal := draft.journal }

/-! ### Other requests -/

/-- The line that tells the version. -/
def versionText : String :=
  let compiler : Compiler := {}
  s!"{compiler.name} {compiler.version}\n"

/-- How the command is called. -/
def usageText : String :=
  "Usage: tessera [OPTIONS]\n"

/-- What the command is for, and its options. -/
def helpText : String :=
  "Entry and bundle planner for web component compilers\n\n" ++
  usageText ++
  "\nOptions:\n" ++
  "  -c, --config <FILE>  Project config file [default: tessera.toml]\n" ++
  "      --stats <FILE>   Write a JSON build stats manifest to this file\n" ++
  "  -v, --verbose...     Increase log verbosity " ++
    "(-v info, -vv debug, -vvv trace)\n" ++
  "  -h, --help           Print help\n" ++
  "  -V, --version        Print version\n"

/-- The outcome of arguments that are not understood. -/
def misuse : Outcome where
  code := 2
  report :=
    "error: the arguments are not understood\n\n" ++ usageText ++
      "\nFor more information, try '--help'.\n"

/-! ### Runs on a tree -/

/-- Run on a tree of files. -/
def runOptions (tree : FileTree) (options : Options) : Outcome × FileTree :=
  let draft := Draft.ofOptions (tree.source none) options
  match draft.manifest? with
  | none => (draft.finish (.ok ()), tree)
  | some (file, text) =>
      match tree.write file text with
      | .ok written => (draft.finish (.ok ()), written)
      | .error cause => (draft.finish (.error cause), tree)

/-- What the command does with a tree of files. -/
def run (tree : FileTree) (arguments : List String) : Outcome × FileTree :=
  match Request.ofArguments arguments with
  | .run options => runOptions tree options
  | .showHelp => ({ output := helpText }, tree)
  | .showVersion => ({ output := versionText }, tree)
  | .misuse => (misuse, tree)

end CodeSplit.Command
