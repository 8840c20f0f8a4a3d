/-
Module: CodeSplit.Text.LetterCase
Purpose: lower-casing of text by the full Unicode rules.
Main exports:
  lowerChar, lowerChars, lowerCase
-/
import CodeSplit.Text.LetterCase.Table

namespace CodeSplit.Text

/-!
Lower-casing replaces every capital letter by its small letter.  Two
characters need more than a look-up: `İ` becomes the two characters `i` and
U+0307, and `Σ` becomes `ς` at the end of a word and `σ` elsewhere.  A `Σ`
ends a word when a cased letter stands before it and none stands after it,
looking past the characters that have no case of their own.
-/

/-- The code point of the small letter, or the code point itself where there
is none. -/
def lowerCode (code : Nat) : Nat :=
  if code < 0x80 then
    if 0x41 ≤ code && code ≤ 0x5A then code + 0x20 else code
  else
    match lowerRows.find? (·.holds code) with
    | some row => row.lower + (code - row.first)
    | none => code

/-- The lower-case form of a character that stands alone. -/
def lowerChar (c : Char) : List Char :=
  if c = 'İ' then ['i', '\u0307'] else [Char.ofNat (lowerCode c.toNat)]

/-- Whether the first character that is not case-ignorable is cased. -/
def meetsCased (cs : List Char) : Bool :=
  match cs.dropWhile caseIgnorable.holds with
  | [] => false
  | c :: _ => cased.holds c

/-- Lower-case the characters; `before` holds those that precede them,
nearest first. -/
def lowerCharsFrom (before : List Char) : List Char → List Char
  | [] => []
  | c :: after =>
      let small :=
        if c = 'Σ' then
          [if meetsCased before && !meetsCased after then 'ς' else 'σ']
        else
          lowerChar c
      small ++ lowerCharsFrom (c :: before) after

/-- The characters in lower case. -/
def lowerChars (cs : List Char) : List Char :=
  lowerCharsFrom [] cs

/-- The text in lower case. -/
def lowerCase (text : String) : String :=
  String.ofList (lowerChars text.toList)

end CodeSplit.Text
