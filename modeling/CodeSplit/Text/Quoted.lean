/-
Module: CodeSplit.Text.Quoted
Purpose: text between double quotes, with the characters that would not show
  written as escapes; lists of such texts.
Main exports:
  quoted, quotedList
-/
import CodeSplit.Text.Quoted.Hidden

namespace CodeSplit.Text

/-!
Messages that name tags put each one between quotes, so that its ends can be
seen.  Inside, a quote and a backslash get a backslash, the common controls
have letters (`\t`, `\r`, `\n`, `\0`), and any other hidden character is
written with its code point: `\u` and hexadecimal digits between braces.
-/

/-- The digits of a code point in base sixteen, as few as it needs. -/
def hexDigits (code : Nat) : List Char :=
  Nat.toDigits 16 code

/-- How one character is written between quotes. -/
def quotedChar (c : Char) : List Char :=
  if c = '\x00' then ['\\', '0']
  else if c = '\t' then ['\\', 't']
  else if c = '\r' then ['\\', 'r']
  else if c = '\n' then ['\\', 'n']
  else if c = '"' || c = '\\' then ['\\', c]
  else if hidden.holds c then
    ['\\', 'u', '\x7b'] ++ hexDigits c.toNat ++ ['\x7d']
  else [c]

/-- The text between double quotes. -/
def quoted (text : String) : String :=
  String.ofList ('"' :: text.toList.flatMap quotedChar ++ ['"'])

/-- The texts, each between quotes, between brackets and parted by commas. -/
def quotedList (texts : List String) : String :=
  "[" ++ ", ".intercalate (texts.map quoted) ++ "]"

end CodeSplit.Text
