/-
Module: CodeSplit.FileTree
Purpose: a tree of directories and files, with a working directory.
Main exports:
  FileTree, FileTree.read, FileTree.write, FileTree.source
-/
import CodeSplit.Source

namespace CodeSplit

/-!
A `FileTree` is a value, so that a program which reads and writes files can be
described as a function on trees.  Paths are followed step by step: every step
but the last has to lead into a directory, `..` leads out of one, and the root
is its own parent.
-/

/-- A place in the tree: the names that lead to it from the root. -/
abbrev Location := List String

/-- What stands at a location. -/
inductive TreeItem where
  | directory
  | file (content : ByteArray)
deriving Inhabited

/-- Directories and files by location.  The root is a directory and needs no
entry. -/
structure FileTree where
  /-- Where relative paths start. -/
  workingDirectory : Location := []
  entries : List (Location × TreeItem) := []
deriving Inhabited

namespace FileTree

/-- Names are at most this many bytes long. -/
def longestName : Nat := 255

/-- Paths are at most this many bytes long. -/
def longestPath : Nat := 4095

/-- What stands at a location. -/
def item? (tree : FileTree) (location : Location) : Option TreeItem :=
  if location = [] then some .directory
  else (tree.entries.find? fun placed => placed.1 = location).map (·.2)

/-- Put an entry at a location, in place of what stood there. -/
def put (tree : FileTree) (location : Location) (entry : TreeItem) : FileTree :=
  { tree with
    entries := (location, entry) ::
      tree.entries.filter fun placed => placed.1 ≠ location }

/-- One step from a location. -/
def step (tree : FileTree) (location : Location) (segment : List Char) :
    Except ReadError Location :=
  match tree.item? location with
  | none => .error .missing
  | some (.file _) => .error .notADirectory
  | some .directory =>
      if Path.isFiller segment then .ok location
      else if segment = ['.', '.'] then .ok location.dropLast
      else
        let name := String.ofList segment
        if longestName < name.utf8ByteSize then .error .nameTooLong
        else .ok (location ++ [name])

/-- Follow the segments from a location.  The last step may lead to a location
where nothing stands. -/
def follow (tree : FileTree) (location : Location) :
    List (List Char) → Except ReadError Location
  | [] => .ok location
  | segment :: rest =>
      match tree.step location segment with
      | .error cause => .error cause
      | .ok next => tree.follow next rest

/-- Where a path starts, and its segments.  Paths that no file system takes are
refused. -/
def start (tree : FileTree) (path : Path) :
    Except ReadError (Location × List (List Char)) :=
  if path.text.toList.contains '\x00' then .error .nulInName
  else if path.text = "" then .error .missing
  else if longestPath < path.text.utf8ByteSize then .error .nameTooLong
  else .ok (if path.isAbsolute then [] else tree.workingDirectory,
    Path.splitSlash path.text.toList)

/-- The location a path leads to. -/
def locate (tree : FileTree) (path : Path) : Except ReadError Location :=
  match tree.start path with
  | .error cause => .error cause
  | .ok (location, segments) => tree.follow location segments

/-! ### Reading and writing -/

/-- The text of a file. -/
def read (tree : FileTree) (path : Path) : Except ReadError String :=
  match tree.locate path with
  | .error cause => .error cause
  | .ok location =>
      match tree.item? location with
      | none => .error .missing
      | some .directory => .error .isADirectory
      | some (.file content) =>
          match String.fromUTF8? content with
          | some text => .ok text
          | none => .error .notText

/-- The tree as a source of texts.  Relative paths start at `root?` where one
is given. -/
def source (tree : FileTree) (root? : Option Path) : Source := fun path =>
  match root? with
  | some root => tree.read (root.join path)
  | none => tree.read path

/-- Where a text written to the path goes.  The directory has to be there
already, and the path may not end as one that leads to a directory. -/
def writeTarget (tree : FileTree) (path : Path) : Except ReadError Location :=
  match tree.start path with
  | .error cause => .error cause
  | .ok (location, segments) =>
      let named := (segments.reverse.dropWhile (· = [])).reverse
      match tree.follow location named.dropLast, named.getLast? with
      | .error cause, _ => .error cause
      | .ok _, none => .error .isADirectory
      | .ok folder, some last =>
          match tree.item? folder with
          | none => .error .missing
          | some (.file _) => .error .notADirectory
          | some .directory =>
              if last = ['.'] || last = ['.', '.'] then .error .isADirectory
              else if named.length < segments.length then .error .isADirectory
              else tree.step folder last

/-- Write a text to a file, which is made or replaced. -/
def write (tree : FileTree) (path : Path) (text : String) :
    Except ReadError FileTree :=
  match tree.writeTarget path with
  | .error cause => .error cause
  | .ok location =>
      match tree.item? location with
      | some .directory => .error .isADirectory
      | _ => .ok (tree.put location (.file text.toUTF8))

/-! ### Building a tree -/

/-- Make a directory where nothing stands. -/
def makeDirectory (tree : FileTree) (location : Location) : FileTree :=
  if (tree.item? location).isSome then tree else tree.put location .directory

/-- Make the directories on the way to a location, without the location
itself. -/
def makeWay (tree : FileTree) (location : Location) : FileTree :=
  (List.range location.length).foldl
    (fun grown count => grown.makeDirectory (location.take count)) tree

/-- Put an entry at the end of a path, with the directories that lead there.
The path holds names only. -/
def install (tree : FileTree) (path : Path) (entry : TreeItem) : FileTree :=
  let names := (Path.splitSlash path.text.toList).filter fun segment =>
    !Path.isFiller segment
  let location :=
    (if path.isAbsolute then [] else tree.workingDirectory) ++
      names.map String.ofList
  (tree.makeWay location).put location entry

end FileTree

end CodeSplit
