/-
Module: CodeSplit.Toml.Nesting
Purpose: documents as trees, by their brackets and braces.
Main exports:
  Toml.Tree, Toml.Tree.ofGlyphs?
-/
import CodeSplit.Toml.Glyph

namespace CodeSplit.Toml

/-- A part of a document: a glyph, or what stands between two fences. -/
inductive Tree where
  | glyph (part : Glyph)
  /-- What stands between `[` and `]`. -/
  | brackets (children : List Tree)
  /-- What stands between an opening and a closing brace. -/
  | braces (children : List Tree)
deriving Repr, Inhabited

/-- What trees stand between. -/
inductive Fence where
  | bracket
  | brace
deriving Repr, DecidableEq

/-- The tree of what stands between two fences. -/
def Fence.enclose : Fence → List Tree → Tree
  | .bracket, children => .brackets children
  | .brace, children => .braces children

namespace Tree

/-- Arrays and tables in one line may be this deep inside each other. -/
def deepest : Nat := 80

/-- A fence that a character opens. -/
def opening? : Char → Option Fence
  | '[' => some .bracket
  | '\x7b' => some .brace
  | _ => none

/-- A fence that a character closes. -/
def closing? : Char → Option Fence
  | ']' => some .bracket
  | '\x7d' => some .brace
  | _ => none

/-- Go on building trees.  `outer` holds the fences that are open, innermost
first, each with the trees in front of it; `done` holds the trees behind the
last of them.  The trees are held last first. -/
def nest (outer : List (Fence × List Tree)) (done : List Tree) :
    List Glyph → Option (List Tree)
  | [] => if outer.isEmpty then some done.reverse else none
  | .plain c :: rest =>
      match opening? c, closing? c, outer with
      | some fence, _, _ =>
          if outer.length < deepest then nest ((fence, done) :: outer) [] rest
          else none
      | none, some fence, (opened, before) :: outer =>
          if opened = fence then
            nest outer (fence.enclose done.reverse :: before) rest
          else
            none
      | none, some _, [] => none
      | none, none, _ => nest outer (.glyph (.plain c) :: done) rest
  | other :: rest => nest outer (.glyph other :: done) rest

/-- The trees of a document.  Every fence has to be closed by its partner. -/
def ofGlyphs? (glyphs : List Glyph) : Option (List Tree) :=
  nest [] [] glyphs

end Tree

end CodeSplit.Toml
