/-
Module: CodeSplit.Command.Report
Purpose: how the command tells why it failed.
Main exports:
  Command.Failure, Command.report
-/
import CodeSplit.ProjectFile

namespace CodeSplit.Command

/-- Why a run failed. -/
inductive Failure where
  | notLoaded (cause : LoadFault)
  | notPlanned (projectFile : Path) (cause : Fault)
  /-- The manifest cannot be written. -/
  | notWritten (file : Path) (cause : ReadError)
deriving Repr

/-- What happened, with the texts for its causes, the outermost first. -/
def Failure.messages : Failure → List String
  | .notLoaded cause => cause.messages
  | .notPlanned projectFile cause =>
      [s!"Failed to plan bundles for {projectFile.text}", cause.message]
  | .notWritten file cause =>
      [s!"Failed to write build stats to {file.text}", cause.message]

/-- The lines of a text, all but the first of them moved in by some blanks. -/
def hang (blanks : Nat) (text : String) : String :=
  String.ofList <| text.toList.flatMap fun c =>
    if c = '\n' then '\n' :: List.replicate blanks ' ' else [c]

/-- A cause on lines of its own. -/
def plainCause (cause : String) : String :=
  "\n    " ++ hang 4 cause

/-- A cause on lines of its own, behind its number. -/
def numberedCause (cause : String) (number : Nat) : String :=
  let shown := toString number
  "\n" ++ "".pushn ' ' (5 - shown.length) ++ shown ++ ": " ++ hang 7 cause

/-- Causes, which are numbered if there are several. -/
def reportCauses : List String → String
  | [] => ""
  | [cause] => "\n\nCaused by:" ++ plainCause cause
  | causes =>
      "\n\nCaused by:" ++
        "".intercalate (causes.zipIdx.map fun (cause, number) =>
          numberedCause cause number)

/-- The report of a failure, with the causes it is put down to. -/
def report (failure : Failure) : String :=
  match failure.messages with
  | [] => ""
  | message :: causes => s!"Error: {message}{reportCauses causes}\n"

end CodeSplit.Command
