/-
Module: CodeSplit.Json.Printer
Purpose: JSON text, laid out over lines.
Main exports:
  Json.render
-/
import CodeSplit.Json

namespace CodeSplit.Json

/-!
Every item of an array and every member of an object stands on a line of its
own, two blanks further in than the brackets around it; empty ones are written
`[]` and as a pair of braces.  A text is written as it is, apart from quotes,
backslashes and the controls below U+0020.
-/

/-- The hexadecimal digit for a number below sixteen. -/
def hexDigit (value : Nat) : Char :=
  (Nat.toDigits 16 value).headD '0'

/-- How one character of a text is written. -/
def escapeChar (c : Char) : List Char :=
  if c = '"' then ['\\', '"']
  else if c = '\\' then ['\\', '\\']
  else if c = '\x08' then ['\\', 'b']
  else if c = '\x0c' then ['\\', 'f']
  else if c = '\n' then ['\\', 'n']
  else if c = '\r' then ['\\', 'r']
  else if c = '\t' then ['\\', 't']
  else if c.toNat < 0x20 then
    ['\\', 'u', '0', '0', hexDigit (c.toNat / 16), hexDigit (c.toNat % 16)]
  else [c]

/-- A text between quotes. -/
def textChars (text : String) : List Char :=
  '"' :: text.toList.flatMap escapeChar ++ ['"']

/-- A new line, `depth` levels in. -/
def newLine (depth : Nat) : List Char :=
  '\n' :: List.replicate (2 * depth) ' '

/-- A number, with a point where it has decimal places. -/
def numberChars (mantissa : Int) (scale : Nat) : List Char :=
  let sign := if mantissa < 0 then ['-'] else []
  let digits := Nat.toDigits 10 mantissa.natAbs
  if scale = 0 then sign ++ digits
  else
    let padded := List.replicate (scale + 1 - digits.length) '0' ++ digits
    let whole := padded.length - scale
    sign ++ padded.take whole ++ '.' :: padded.drop whole

mutual

/-- The characters of a value that starts `depth` levels in. -/
def chars (depth : Nat) : Json → List Char
  | .null => ['n', 'u', 'l', 'l']
  | .boolean true => ['t', 'r', 'u', 'e']
  | .boolean false => ['f', 'a', 'l', 's', 'e']
  | .number mantissa scale => numberChars mantissa scale
  | .text value => textChars value
  | .array [] => ['[', ']']
  | .array (item :: rest) =>
      '[' :: newLine (depth + 1) ++ item.chars (depth + 1) ++
        itemChars (depth + 1) rest ++ newLine depth ++ [']']
  | .object [] => ['\x7b', '\x7d']
  | .object ((name, value) :: rest) =>
      '\x7b' :: newLine (depth + 1) ++ textChars name ++ [':', ' '] ++
        value.chars (depth + 1) ++ memberChars (depth + 1) rest ++
        newLine depth ++ ['\x7d']

/-- The characters of the items behind the first. -/
def itemChars (depth : Nat) : List Json → List Char
  | [] => []
  | item :: rest =>
      ',' :: newLine depth ++ item.chars depth ++ itemChars depth rest

/-- The characters of the members behind the first. -/
def memberChars (depth : Nat) : List (String × Json) → List Char
  | [] => []
  | (name, value) :: rest =>
      ',' :: newLine depth ++ textChars name ++ [':', ' '] ++
        value.chars depth ++ memberChars depth rest

end

/-- The text of a value. -/
def render (value : Json) : String :=
  String.ofList (value.chars 0)

end CodeSplit.Json
