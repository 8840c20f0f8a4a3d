/-
Module: CodeSplit.Text.Blank
Purpose: blank characters, and text without the blanks around it.
Main exports:
  blanks, isBlank, trim
-/
import CodeSplit.Text.CharClass

namespace CodeSplit.Text

/-!
A character is blank when Unicode gives it the property White_Space.  This is
more than the ASCII blanks (a no-break space and the line separators are
blank) and less than "invisible" (a zero width space is not).
-/

/-- The characters with the Unicode property White_Space. -/
def blanks : CharClass :=
  [⟨0x0009, 0x000D⟩, ⟨0x0020, 0x0020⟩, ⟨0x0085, 0x0085⟩, ⟨0x00A0, 0x00A0⟩,
   ⟨0x1680, 0x1680⟩, ⟨0x2000, 0x200A⟩, ⟨0x2028, 0x2029⟩, ⟨0x202F, 0x202F⟩,
   ⟨0x205F, 0x205F⟩, ⟨0x3000, 0x3000⟩]

/-- Whether a character is blank. -/
def isBlank (c : Char) : Bool :=
  blanks.holds c

/-- Every ASCII blank of the core library is blank. -/
theorem isBlank_of_isWhitespace {c : Char} (h : c.isWhitespace = true) :
    isBlank c = true := by
  simp only [Char.isWhitespace, Bool.or_eq_true, decide_eq_true_eq] at h
  rcases h with ((rfl | rfl) | rfl) | rfl <;> decide

/-- The characters without the blanks at either end. -/
def trimChars (cs : List Char) : List Char :=
  ((cs.dropWhile isBlank).reverse.dropWhile isBlank).reverse

/-- The text without the blanks at either end. -/
def trim (text : String) : String :=
  String.ofList (trimChars text.toList)

end CodeSplit.Text
