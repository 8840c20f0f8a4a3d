/-
Module: CodeSplit.Source
Purpose: where texts are read from, and why a text cannot be read.
Main exports:
  ReadError, ReadError.message, Source, Source.ofReads, MemoryFiles
-/
import CodeSplit.Path

namespace CodeSplit

/-! ### Reading -/

/-- Why a file cannot be read or written. -/
inductive ReadError where
  /-- No entry has this name. -/
  | missing
  /-- A step leads through something that is not a directory. -/
  | notADirectory
  /-- The path leads to a directory. -/
  | isADirectory
  /-- A name, or the whole path, is longer than the file system allows. -/
  | nameTooLong
  /-- The content is not text in UTF-8. -/
  | notText
  /-- The path holds a NUL character, which no file name may. -/
  | nulInName
  /-- No text is kept in memory for this path. -/
  | notKept (path : Path)
  /-- A cause of which only the description is known. -/
  | other (description : String)
deriving Repr, DecidableEq

/-- The text that describes the cause. -/
def ReadError.message : ReadError → String
  | .missing => "No such file or directory (os error 2)"
  | .notADirectory => "Not a directory (os error 20)"
  | .isADirectory => "Is a directory (os error 21)"
  | .nameTooLong => "File name too long (os error 36)"
  | .notText => "stream did not contain valid UTF-8"
  | .nulInName => "file name contained an unexpected NUL byte"
  | .notKept path => s!"{path.text} does not exist"
  | .other description => description

/-- A place that texts are read from, by path. -/
abbrev Source := Path → Except ReadError String

/-- The source whose texts were read before. -/
def Source.ofReads (reads : List (Path × Except ReadError String)) : Source :=
  fun path => (reads.lookup path).getD (.error .missing)

/-! ### Texts kept in memory -/

/-- Texts kept in memory, each under the path it was written to.  Later texts
stand in front. -/
structure MemoryFiles where
  files : List (Path × String) := []
deriving Repr

namespace MemoryFiles

/-- Keep a text.  It replaces the text of every path with the same parts. -/
def write (kept : MemoryFiles) (path : Path) (text : String) : MemoryFiles :=
  ⟨(path, text) :: kept.files.filter fun file => !file.1.sameParts path⟩

/-- The text kept under a path with the same parts. -/
def read (kept : MemoryFiles) : Source := fun path =>
  match kept.files.find? fun file => file.1.sameParts path with
  | some (_, text) => .ok text
  | none => .error (.notKept path)

/-- Keep all the texts, in order. -/
def ofList (files : List (Path × String)) : MemoryFiles :=
  files.foldl (fun kept file => kept.write file.1 file.2) {}

/-- A text that was just written is read back, from every spelling of its
path. -/
theorem read_write_of_sameParts (kept : MemoryFiles) {path spelled : Path}
    (text : String) (same : path.sameParts spelled = true) :
    (kept.write path text).read spelled = .ok text := by
  simp [read, write, same]

end MemoryFiles

end CodeSplit
