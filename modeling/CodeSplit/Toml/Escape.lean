/-
Module: CodeSplit.Toml.Escape
Purpose: the text that stands for what is written between quotes.
Main exports:
  Toml.decodeBasic, Toml.decodeLiteral
-/
import CodeSplit.Toml.Number

namespace CodeSplit.Toml

/-!
Between single quotes every character stands for itself.  Between double quotes
a backslash starts an escape: a letter for a common control, a code point in
two, four or eight hexadecimal digits, or the end of a line, which is left out
together with the blanks and line ends that follow it.  Controls other than tabs
and line ends have to be written as escapes.
-/

/-- Whether a character may stand for itself inside a line. -/
def isTextChar (c : Char) : Bool :=
  c = '\t' || ' ' ≤ c && c ≠ '\x7f'

/-- The character with a code point in hexadecimal digits. -/
def codePoint? (digits : List Char) : Option Char := do
  let values ← digits.mapM (digitValue? 16)
  let code := ofDigits 16 values
  if code.isValidChar then some (Char.ofNat code) else none

/-- The character that a letter behind a backslash stands for. -/
def letterEscape? : Char → Option Char
  | 'b' => some '\x08'
  | 't' => some '\t'
  | 'n' => some '\n'
  | 'f' => some '\x0c'
  | 'r' => some '\r'
  | 'e' => some '\x1b'
  | '"' => some '"'
  | '\\' => some '\\'
  | _ => none

/-- Whether only blanks stand before the end of the line. -/
def endsLine (cs : List Char) : Bool :=
  match cs.dropWhile fun c => c = ' ' || c = '\t' with
  | '\n' :: _ => true
  | '\r' :: '\n' :: _ => true
  | _ => false

/-- Go on decoding with `done` decoded already, last character first; `folding`
tells whether blanks and line ends are being left out. -/
def decodeFrom (folding : Bool) (done : List Char) :
    List Char → Option (List Char)
  | [] => some done.reverse
  | '\\' :: 'x' :: a :: b :: rest => do
      decodeFrom false ((← codePoint? [a, b]) :: done) rest
  | '\\' :: 'u' :: a :: b :: c :: d :: rest => do
      decodeFrom false ((← codePoint? [a, b, c, d]) :: done) rest
  | '\\' :: 'U' :: a :: b :: c :: d :: e :: f :: g :: h :: rest => do
      decodeFrom false ((← codePoint? [a, b, c, d, e, f, g, h]) :: done) rest
  | '\\' :: c :: rest =>
      match letterEscape? c with
      | some decoded => decodeFrom false (decoded :: done) rest
      | none =>
          if endsLine (c :: rest) then decodeFrom true done rest else none
  | '\r' :: '\n' :: rest =>
      decodeFrom folding (if folding then done else '\n' :: '\r' :: done) rest
  | c :: rest =>
      if folding && (c = ' ' || c = '\t' || c = '\n') then
        decodeFrom true done rest
      else if isTextChar c || c = '\n' then
        decodeFrom false (c :: done) rest
      else
        none

/-- The text that characters between double quotes stand for. -/
def decodeBasic (cs : List Char) : Option String :=
  (decodeFrom false [] cs).map String.ofList

/-- Whether the characters may all stand for themselves. -/
def isLiteral : List Char → Bool
  | [] => true
  | '\r' :: '\n' :: rest => isLiteral rest
  | c :: rest => (isTextChar c || c = '\n') && isLiteral rest

/-- The text that characters between single quotes stand for. -/
def decodeLiteral (cs : List Char) : Option String :=
  if isLiteral cs then some (String.ofList cs) else none

end CodeSplit.Toml
