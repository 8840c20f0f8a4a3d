/-
Module: CodeSplit.Toml.Piece
Purpose: keys, values, and keys with their values.
Main exports:
  Toml.Piece, Toml.keyPath?, Toml.value?, Toml.assignment?
-/
import CodeSplit.Toml.Draft
import CodeSplit.Toml.Nesting
import CodeSplit.Toml.Scalar

namespace CodeSplit.Toml

/-!
Trees are read from the inside: an array or a table in one line becomes a single
piece, which holds its value, so that everything around it is a list of pieces
without any structure.
-/

/-- A part of a document whose brackets and braces have been read. -/
inductive Piece where
  | plain (c : Char)
  | lineEnd
  /-- A string in one line. -/
  | text (content : String)
  /-- A string between three quotes on each side. -/
  | passage (content : String)
  /-- An array, or a table in one line. -/
  | value (content : Value)
deriving Repr, Inhabited

namespace Piece

/-- The piece of a glyph. -/
def ofGlyph : Glyph → Piece
  | .plain c => .plain c
  | .lineEnd => .lineEnd
  | .text content => .text content
  | .passage content => .passage content

/-- Whether the piece is a certain character. -/
def isChar (c : Char) : Piece → Bool
  | .plain d => c = d
  | _ => false

/-- Whether the piece is a blank. -/
def isBlank : Piece → Bool
  | .plain c => c = ' ' || c = '\t'
  | _ => false

/-- Whether the piece is a blank or the end of a line. -/
def isSpace : Piece → Bool
  | .lineEnd => true
  | piece => piece.isBlank

/-- The character that the piece is. -/
def char? : Piece → Option Char
  | .plain c => some c
  | _ => none

end Piece

/-- The list without the members of a class at its ends. -/
def trimWhere {α : Type} (isOuter : α → Bool) (xs : List α) : List α :=
  ((xs.dropWhile isOuter).reverse.dropWhile isOuter).reverse

/-! ### Keys -/

/-- Whether a character may stand in a key without quotes. -/
def isKeyChar (c : Char) : Bool :=
  c.isAlphanum || c = '_' || c = '-'

/-- One key: a string, or a word. -/
def key? (pieces : List Piece) : Option String :=
  match trimWhere Piece.isBlank pieces with
  | [.text content] => some content
  | word => do
      let cs ← word.mapM Piece.char?
      if !cs.isEmpty && cs.all isKeyChar then some (String.ofList cs) else none

/-- Keys with points between them. -/
def keyPath? (pieces : List Piece) : Option (List String) :=
  (splitWhere (Piece.isChar '.') pieces).mapM key?

/-! ### Values -/

/-- A value, which may have blanks around it. -/
def value? (pieces : List Piece) : Option Value :=
  match trimWhere Piece.isBlank pieces with
  | [.text content] => some (.text content)
  | [.passage content] => some (.text content)
  | [.value content] => some content
  | word => do scalar? (← word.mapM Piece.char?)

/-- Keys, an equals sign, and a value. -/
def assignment? (pieces : List Piece) : Option (List String × Value) :=
  let front := pieces.takeWhile fun piece => !piece.isChar '='
  match pieces.drop front.length with
  | [] => none
  | _ :: behind => do return (← keyPath? front, ← value? behind)

/-- What stands between commas, without the blanks and line ends around it.  The
last comma may have nothing behind it. -/
def items (pieces : List Piece) : List (List Piece) :=
  let parts :=
    (splitWhere (Piece.isChar ',') pieces).map (trimWhere Piece.isSpace)
  match parts.getLast? with
  | some [] => parts.dropLast
  | _ => parts

/-- The array whose items are written between brackets. -/
def array? (pieces : List Piece) : Option Value :=
  ((items pieces).mapM value?).map .array

/-- The table whose entries are written between braces. -/
def inlineTable? (pieces : List Piece) : Option Value := do
  let assignments ← (items pieces).mapM assignment?
  let draft ←
    assignments.foldlM
      (fun draft (path, value) => Draft.assign value path draft) ([] : Draft)
  return .table (finishTable draft)

mutual

/-- The piece that a tree stands for. -/
def Tree.piece? : Tree → Option Piece
  | .glyph part => some (.ofGlyph part)
  | .brackets children => do
      let value ← array? (← pieces? children)
      return .value value
  | .braces children => do
      let value ← inlineTable? (← pieces? children)
      return .value value

/-- The pieces that trees stand for. -/
def pieces? : List Tree → Option (List Piece)
  | [] => some []
  | tree :: rest => do
      let piece ← tree.piece?
      let others ← pieces? rest
      return piece :: others

end

end CodeSplit.Toml
