/-
Module: CodeSplit.Main
Purpose: the command on the files of the machine.
Main exports:
  main
-/
import CodeSplit.Command

namespace CodeSplit.Command

/-!
All that is decided is decided by `Draft.ofOptions` and `Draft.finish`; here the
files are read before and written after, and the texts are printed.
-/

/-- The number of a system error, which may be kept below zero. -/
def errorNumber (code : UInt32) : Nat :=
  if code.toNat < 0x80000000 then code.toNat else 0x100000000 - code.toNat

/-- Why a file cannot be used, from what the system says. -/
def readErrorOf : IO.Error → ReadError
  | .noFileOrDirectory .. => .missing
  | .inappropriateType _ code details
  | .resourceExhausted _ code details
  | .permissionDenied _ code details
  | .invalidArgument _ code details =>
      match errorNumber code with
      | 20 => .notADirectory
      | 21 => .isADirectory
      | 36 => .nameTooLong
      | number => .other s!"{details} (os error {number})"
  | problem => .other (toString problem)

/-- Read a file as text. -/
def readFile (file : Path) : IO (Except ReadError String) := do
  if file.text.toList.contains '\x00' then
    return .error .nulInName
  try
    let content ← IO.FS.readBinFile file.text
    match String.fromUTF8? content with
    | some text => return .ok text
    | none => return .error .notText
  catch problem =>
    return .error (readErrorOf problem)

/-- Write a text to a file. -/
def writeFile (file : Path) (text : String) : IO (Except ReadError Unit) := do
  if file.text.toList.contains '\x00' then
    return .error .nulInName
  try
    IO.FS.writeFile file.text text
    return .ok ()
  catch problem =>
    return .error (readErrorOf problem)

/-- Read everything that a run reads, and make its draft. -/
def readDraft (options : Options) : IO Draft := do
  let first := (options.projectFile, ← readFile options.projectFile)
  let inputs :=
    match ProjectFile.load (Source.ofReads [first]) options.projectFile with
    | .ok projectFile => projectFile.inputs
    | .error _ => []
  let others ← inputs.mapM fun file => return (file, ← readFile file)
  return Draft.ofOptions (Source.ofReads (first :: others)) options

/-- Whether the log tells about an event. -/
def isLogged (options : Options) (event : Event) : Bool :=
  event.level.rank ≤ Level.warn.rank + options.verbosity

/-- Run, and print what is to be printed. -/
def perform (options : Options) : IO UInt32 := do
  let draft ← readDraft options
  IO.print draft.output
  let written ←
    match draft.manifest? with
    | none => pure (.ok ())
    | some (file, text) => writeFile file text
  let outcome := draft.finish written
  for event in outcome.journal.filter (isLogged options) do
    IO.eprintln event.line
  IO.eprint outcome.report
  return UInt32.ofNat outcome.code

end CodeSplit.Command

open CodeSplit CodeSplit.Command in
/-- The command. -/
def main (arguments : List String) : IO UInt32 := do
  match Request.ofArguments arguments with
  | .run options => perform options
  | .showHelp =>
      IO.print helpText
      return 0
  | .showVersion =>
      IO.print versionText
      return 0
  | .misuse =>
      IO.eprint misuse.report
      return UInt32.ofNat misuse.code
