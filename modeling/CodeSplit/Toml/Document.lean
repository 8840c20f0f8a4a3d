/-
Module: CodeSplit.Toml.Document
Purpose: the table that a TOML document stands for.
Main exports:
  Toml.Statement, Toml.parse?
-/
import CodeSplit.Toml.Piece

namespace CodeSplit.Toml

/-!
Outside brackets and braces a document is made of lines, and every line that is
not blank is a statement.  It gives a value to a key of the current table, or it
is a header, which makes another table the current one.
-/

/-- A line of a document. -/
inductive Statement where
  /-- A key gets a value. -/
  | assign (path : List String) (value : Value)
  /-- A header in brackets. -/
  | openTable (path : List String)
  /-- A header in double brackets. -/
  | openElement (path : List String)
deriving Repr

namespace Statement

/-- Whether a tree is a blank. -/
def isBlankTree : Tree → Bool
  | .glyph (.plain c) => c = ' ' || c = '\t'
  | _ => false

/-- Whether a tree is the end of a line. -/
def isLineEnd : Tree → Bool
  | .glyph .lineEnd => true
  | _ => false

/-- The keys that trees stand for. -/
def headerPath? (trees : List Tree) : Option (List String) := do
  keyPath? (← pieces? trees)

/-- The statement in a line that is not blank. -/
def ofLine? : List Tree → Option Statement
  | [.brackets [.brackets path]] => (headerPath? path).map .openElement
  | [.brackets path] => (headerPath? path).map .openTable
  | trees => do
      let (path, value) ← assignment? (← pieces? trees)
      return .assign path value

/-- The statements of a document. -/
def ofTrees? (trees : List Tree) : Option (List Statement) :=
  let lines :=
    (splitWhere isLineEnd trees).map (trimWhere isBlankTree)
  (lines.filter (!·.isEmpty)).mapM ofLine?

end Statement

/-- A document of which the first statements have been carried out. -/
structure Progress where
  draft : Draft := []
  /-- The path of the header whose table is the current one. -/
  current : List String := []

/-- Carry out a statement. -/
def Progress.step (progress : Progress) :
    Statement → Option Progress
  | .assign path value => do
      let draft ←
        Draft.within (Draft.assign value path) progress.current progress.draft
      return { progress with draft := draft }
  | .openTable path => do
      let draft ←
        Draft.within (Draft.openTable (← path.getLast?)) path.dropLast
          progress.draft
      return { draft := draft, current := path }
  | .openElement path => do
      let draft ←
        Draft.within (Draft.openElement (← path.getLast?)) path.dropLast
          progress.draft
      return { draft := draft, current := path }

/-- The table that statements make. -/
def ofStatements? (statements : List Statement) : Option Table := do
  let progress ← statements.foldlM Progress.step {}
  return finishTable progress.draft

/-- The table that a document stands for, or `none` where the text is no TOML
document. -/
def parse? (text : String) : Option Table := do
  let glyphs ← Glyph.ofChars? text.toList
  let trees ← Tree.ofGlyphs? glyphs
  ofStatements? (← Statement.ofTrees? trees)

end CodeSplit.Toml
