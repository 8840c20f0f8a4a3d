/-
Module: CodeSplit.Toml.Glyph
Purpose: documents without comments, and with every string read.
Main exports:
  Toml.Glyph, Toml.Glyph.ofChars?
-/
import CodeSplit.Toml.Escape

namespace CodeSplit.Toml

/-!
Inside strings and comments nothing has the meaning it has outside.  They are
therefore read first: what is left of a document is a list of glyphs, in which
every bracket, comma, point and line end stands for itself.

A string between three quotes spans lines.  A line end right at its start does
not count, and up to two quotes right at its end do.
-/

/-- A smallest part of a document. -/
inductive Glyph where
  /-- A character outside strings and comments. -/
  | plain (c : Char)
  | lineEnd
  /-- A string in one line. -/
  | text (content : String)
  /-- A string between three quotes on each side. -/
  | passage (content : String)
deriving Repr, DecidableEq

namespace Glyph

/-- The characters without a line end at their start. -/
def dropLineEnd : List Char → List Char
  | '\n' :: rest => rest
  | '\r' :: '\n' :: rest => rest
  | cs => cs

/-- Put a string behind the glyphs that are `done`, last first. -/
def put (make : String → Glyph) (done : List Glyph) (text? : Option String) :
    Option (List Glyph) :=
  text?.map fun text => make text :: done

mutual

/-- Read what stands outside strings and comments. -/
def outside (done : List Glyph) : List Char → Option (List Glyph)
  | [] => some done.reverse
  | '\n' :: rest => outside (.lineEnd :: done) rest
  | '\r' :: '\n' :: rest => outside (.lineEnd :: done) rest
  | '\r' :: _ => none
  | '#' :: rest => comment done rest
  | '"' :: '"' :: '"' :: rest => longBasic done [] rest
  | '\'' :: '\'' :: '\'' :: rest => longLiteral done [] rest
  | '"' :: rest => basic done [] rest
  | '\'' :: rest => literal done [] rest
  | c :: rest => outside (.plain c :: done) rest
termination_by structural cs => cs

/-- Read what is left of a comment. -/
def comment (done : List Glyph) : List Char → Option (List Glyph)
  | [] => some done.reverse
  | '\n' :: rest => outside (.lineEnd :: done) rest
  | '\r' :: '\n' :: rest => outside (.lineEnd :: done) rest
  | c :: rest => if isTextChar c then comment done rest else none
termination_by structural cs => cs

/-- Read what is left of a string between double quotes; `before` holds the part
that was read, last character first. -/
def basic (done : List Glyph) (before : List Char) :
    List Char → Option (List Glyph)
  | [] => none
  | '\n' :: _ => none
  | '\\' :: '\n' :: _ => none
  | '"' :: rest => do
      outside (← put .text done (decodeBasic before.reverse)) rest
  | '\\' :: c :: rest => basic done (c :: '\\' :: before) rest
  | c :: rest => basic done (c :: before) rest
termination_by structural cs => cs

/-- Read what is left of a string between single quotes. -/
def literal (done : List Glyph) (before : List Char) :
    List Char → Option (List Glyph)
  | [] => none
  | '\n' :: _ => none
  | '\'' :: rest => do
      outside (← put .text done (decodeLiteral before.reverse)) rest
  | c :: rest => literal done (c :: before) rest
termination_by structural cs => cs

/-- Read what is left of a string between three double quotes. -/
def longBasic (done : List Glyph) (before : List Char) :
    List Char → Option (List Glyph)
  | [] => none
  | '"' :: '"' :: '"' :: '"' :: '"' :: rest => do
      let content := dropLineEnd ('"' :: '"' :: before).reverse
      outside (← put .passage done (decodeBasic content)) rest
  | '"' :: '"' :: '"' :: '"' :: rest => do
      let content := dropLineEnd ('"' :: before).reverse
      outside (← put .passage done (decodeBasic content)) rest
  | '"' :: '"' :: '"' :: rest => do
      let content := dropLineEnd before.reverse
      outside (← put .passage done (decodeBasic content)) rest
  | '\\' :: c :: rest => longBasic done (c :: '\\' :: before) rest
  | c :: rest => longBasic done (c :: before) rest
termination_by structural cs => cs

/-- Read what is left of a string between three single quotes. -/
def longLiteral (done : List Glyph) (before : List Char) :
    List Char → Option (List Glyph)
  | [] => none
  | '\'' :: '\'' :: '\'' :: '\'' :: '\'' :: rest => do
      let content := dropLineEnd ('\'' :: '\'' :: before).reverse
      outside (← put .passage done (decodeLiteral content)) rest
  | '\'' :: '\'' :: '\'' :: '\'' :: rest => do
      let content := dropLineEnd ('\'' :: before).reverse
      outside (← put .passage done (decodeLiteral content)) rest
  | '\'' :: '\'' :: '\'' :: rest => do
      let content := dropLineEnd before.reverse
      outside (← put .passage done (decodeLiteral content)) rest
  | c :: rest => longLiteral done (c :: before) rest
termination_by structural cs => cs
end

/-- The glyphs of a document.  A byte order mark in front of it does not
count. -/
def ofChars? : List Char → Option (List Glyph)
  | '\uFEFF' :: rest => outside [] rest
  | cs => outside [] cs

end Glyph

end CodeSplit.Toml
